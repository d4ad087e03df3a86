import Watershed.Proofs.Decimal.Reading
import Watershed.Proofs.Document.Text

namespace Watershed.Json

def Ends (rest : List Char) : Prop :=
  rest = [] ∨ ∃ c s, rest = c :: s ∧ (c = ',' ∨ c = ']' ∨ c = '\x7d')

theorem Ends.comma (s : List Char) : Ends (',' :: s) := Or.inr ⟨_, _, rfl, Or.inl rfl⟩

theorem Ends.bracket (s : List Char) : Ends (']' :: s) := Or.inr ⟨_, _, rfl, Or.inr (Or.inl rfl)⟩

theorem Ends.brace (s : List Char) : Ends ('\x7d' :: s) := Or.inr ⟨_, _, rfl, Or.inr (Or.inr rfl)⟩

theorem ofDigits_filterMap {cs : List Char} (h : ∀ c ∈ cs, c.isDigit = true) (n : Nat) :
    (cs.filterMap Text.digit?).foldl (fun n d => n * 10 + d) n = Nat.ofDigitChars 10 cs n := by
  induction cs generalizing n with
  | nil => rfl
  | cons c cs ih =>
    obtain ⟨hc, hcs⟩ := List.forall_mem_cons.mp h
    rw [List.filterMap_cons_some (Decimal.digit?_of_isDigit hc), List.foldl_cons, ih hcs,
      Nat.ofDigitChars_cons, Nat.mul_comm]

theorem eq_zero_of_isDigit {c : Char} (hc : c.isDigit = true) (h : c.toNat - '0'.toNat = 0) :
    c = '0' := by
  simp only [Char.isDigit, Bool.and_eq_true, decide_eq_true_eq] at hc
  have hle : '0'.toNat ≤ c.toNat := hc.1
  exact Char.toNat_inj.mp (by omega)

theorem takeDigits_append {cs rest : List Char} (h : ∀ c ∈ cs, c.isDigit = true) (hrest : Ends rest) :
    takeDigits (cs ++ rest) = (cs.filterMap Text.digit?, rest) := by
  have hstop : rest.takeWhile Char.isDigit = [] ∧ rest.dropWhile Char.isDigit = rest := by
    rcases hrest with rfl | ⟨c, s, rfl, rfl | rfl | rfl⟩
    all_goals exact ⟨rfl, rfl⟩
  rw [takeDigits, List.takeWhile_append_of_pos h, List.dropWhile_append_of_pos h, hstop.1, hstop.2,
    List.append_nil]

theorem readWhole_toDigits (n : Nat) {rest : List Char} (hrest : Ends rest) :
    ∃ digits, readWhole (Nat.toDigits 10 n ++ rest) = some (digits, rest) ∧ ofDigits digits = n := by
  refine ⟨_, ?_, (ofDigits_filterMap (Text.isDigit_toDigits n) 0).trans Nat.ofDigitChars_ten_toDigits⟩
  obtain ⟨c, cs, hd, hc⟩ := Text.toDigits_eq_cons n
  rw [readWhole, takeDigits_append (Text.isDigit_toDigits n) hrest, hd,
    List.filterMap_cons_some (Decimal.digit?_of_isDigit hc)]
  split
  · rename_i h
    cases h
  · rename_i h
    obtain ⟨hzero, hmore⟩ := List.cons.inj (Prod.mk.inj h).1
    rw [eq_zero_of_isDigit hc hzero] at hd
    rw [(Text.toDigits_eq_zero_cons (by decide) hd).2] at hmore
    cases hmore
  · rfl

theorem readFraction_ends {rest : List Char} (hrest : Ends rest) :
    readFraction rest = some (none, rest) := by
  rcases hrest with rfl | ⟨c, s, rfl, rfl | rfl | rfl⟩
  all_goals rfl

theorem readExponent_ends {rest : List Char} (hrest : Ends rest) :
    readExponent rest = some (none, rest) := by
  rcases hrest with rfl | ⟨c, s, rfl, rfl | rfl | rfl⟩
  all_goals rfl

theorem toList_toString (n : Int) :
    (toString n).toList = if n < 0 then '-' :: Nat.toDigits 10 n.natAbs else Nat.toDigits 10 n.natAbs := by
  cases n with
  | ofNat k =>
    rw [Int.ofNat_eq_natCast, if_neg (Int.not_lt.mpr (Int.natCast_nonneg k))]
    exact Nat.toList_repr
  | negSucc k =>
    rw [if_pos (Int.negSucc_lt_zero k)]
    show ("-" ++ (k + 1).repr).toList = _
    rw [String.toList_append, Nat.toList_repr]
    rfl

def WholeRange (n : Int) : Prop := -9223372036854775808 ≤ n ∧ n < significantBound

theorem wholeNumber?_eq {n : Int} (h : WholeRange n) : wholeNumber? (n < 0) n.natAbs = some n := by
  obtain ⟨hlow, hhigh⟩ := h
  rw [significantBound] at hhigh
  unfold wholeNumber?
  by_cases hneg : n < 0
  · rw [if_pos (by simpa using hneg), if_neg (by omega)]
    exact congrArg some (by omega)
  · rw [if_neg (by simpa using hneg), significantBound, if_pos (by omega)]
    exact congrArg some (by omega)

theorem readNumber_int {n : Int} (h : WholeRange n) {rest : List Char} (hrest : Ends rest) :
    readNumber ((toString n).toList ++ rest) = some (.int n, rest) := by
  obtain ⟨digits, hread, hvalue⟩ := readWhole_toDigits n.natAbs hrest
  have hwhole := wholeNumber?_eq h
  rw [toList_toString]
  by_cases hneg : n < 0
  · rw [if_pos hneg]
    simp only [hneg, decide_true] at hwhole
    simp [readNumber, hread, readFraction_ends hrest, readExponent_ends hrest, hvalue, hwhole]
  · rw [if_neg hneg]
    simp only [hneg, decide_false] at hwhole
    have hsign : ∀ t, Nat.toDigits 10 n.natAbs ++ rest ≠ '-' :: t := by
      intro t ht
      obtain ⟨c, cs, hd, hc⟩ := Text.toDigits_eq_cons n.natAbs
      rw [hd, List.cons_append, List.cons.injEq] at ht
      rw [ht.1] at hc
      cases hc
    simp [readNumber, hread, readFraction_ends hrest, readExponent_ends hrest, hvalue, hwhole]

inductive Exact : Datum → Prop
  | null : Exact .null
  | bool (b : Bool) : Exact (.bool b)
  | int {n : Int} (h : WholeRange n) : Exact (.int n)
  | text (s : String) : Exact (.text s)
  | list {items : List Datum} (h : ∀ d ∈ items, Exact d) : Exact (.list items)
  | named {fields : List (String × Datum)} (h : ∀ f ∈ fields, Exact f.2) : Exact (.named fields)

variable {e : Escaping}

theorem chars_text (s : String) : chars e (.text s) = quoted e s := by
  rw [Datum.text, chars, scalarChars]

theorem chars_int (n : Int) : chars e (.int n) = (toString n).toList := by
  rw [Datum.int, chars, scalarChars]

theorem chars_list (items : List Datum) :
    chars e (.list items) = '[' :: joined (items.map (chars e)) ++ [']'] := by
  rw [chars]

def fieldChars (e : Escaping) (f : String × Datum) : List Char := quoted e f.1 ++ ':' :: chars e f.2

theorem chars_named (fields : List (String × Datum)) :
    chars e (.named fields) = '\x7b' :: joined (fields.map (fieldChars e)) ++ ['\x7d'] := by
  rw [Datum.named, chars, List.map_map]
  rfl

theorem skip_cons {c : Char} (h : isBlank c = false) (s : List Char) : skip (c :: s) = c :: s := by
  rw [skip, List.dropWhile_cons_of_neg (by simp [h])]

theorem isBlank_of_isDigit {c : Char} (h : c.isDigit = true) : isBlank c = false := by
  rw [← Bool.not_eq_true, isBlank]
  simp only [Bool.or_eq_true, decide_eq_true_eq]
  rintro (((rfl | rfl) | rfl) | rfl)
  all_goals cases h

theorem chars_eq_cons {d : Datum} (h : Exact d) :
    ∃ c cs, chars e d = c :: cs ∧ isBlank c = false ∧ c ≠ ']' := by
  cases h with
  | null => exact ⟨_, _, by rw [Datum.null, chars, scalarChars], rfl, by decide⟩
  | bool b =>
    cases b with
    | false => exact ⟨_, _, by rw [Datum.bool, chars, scalarChars], rfl, by decide⟩
    | true => exact ⟨_, _, by rw [Datum.bool, chars, scalarChars], rfl, by decide⟩
  | @int n h =>
    rw [chars_int, toList_toString]
    split
    · exact ⟨_, _, rfl, rfl, by decide⟩
    · obtain ⟨c, cs, hd, hc⟩ := Text.toDigits_eq_cons n.natAbs
      refine ⟨c, cs, hd, isBlank_of_isDigit hc, ?_⟩
      rintro rfl
      cases hc
  | text s => exact ⟨_, _, by rw [chars_text, quoted]; rfl, rfl, by decide⟩
  | list h => exact ⟨_, _, by rw [chars_list]; rfl, rfl, by decide⟩
  | named h => exact ⟨_, _, by rw [chars_named]; rfl, rfl, by decide⟩

def ReadBack (e : Escaping) (d : Datum) : Prop :=
  ∀ fuel rest, Ends rest → (chars e d).length ≤ fuel →
    readValue (fuel + 1) (chars e d ++ rest) = some (d, rest)

theorem readBack_null : ReadBack e .null := by
  intro fuel rest _ _
  rw [Datum.null, chars, scalarChars]
  rfl

theorem readBack_bool (b : Bool) : ReadBack e (.bool b) := by
  intro fuel rest _ _
  rw [Datum.bool, chars]
  cases b with
  | false => rfl
  | true => rfl

theorem readValue_text (fuel : Nat) (s : List Char) :
    readValue (fuel + 1) ('"' :: s) = (readText [] s).map fun r => (.text r.1, r.2) := by
  simp [readValue, skip_cons (show isBlank '"' = false from rfl)]

theorem readBack_text (s : String) : ReadBack e (.text s) := by
  intro fuel rest _ _
  rw [chars_text, quoted_append, readValue_text, readText_quoted]
  rfl

theorem readValue_number {c : Char} (h : c.isDigit = true ∨ c = '-') (fuel : Nat) (cs : List Char) :
    readValue (fuel + 1) (c :: cs) = (readNumber (c :: cs)).map fun r => (.scalar r.1, r.2) := by
  have hblank : isBlank c = false := by
    rcases h with h | rfl
    · exact isBlank_of_isDigit h
    · rfl
  rw [readValue, skip_cons hblank]
  split
  all_goals first | rfl | (rename_i hc; cases hc; simp at h)

theorem readBack_int {n : Int} (h : WholeRange n) : ReadBack e (.int n) := by
  intro fuel rest hrest _
  obtain ⟨c, cs, hcs, hc⟩ : ∃ c cs, (toString n).toList = c :: cs ∧ (c.isDigit = true ∨ c = '-') := by
    rw [toList_toString]
    split
    · exact ⟨_, _, rfl, Or.inr rfl⟩
    · obtain ⟨c, cs, hd, hc⟩ := Text.toDigits_eq_cons n.natAbs
      exact ⟨c, cs, hd, Or.inl hc⟩
  rw [chars_int, hcs, List.cons_append, readValue_number hc, ← List.cons_append, ← hcs,
    readNumber_int h hrest]
  rfl

theorem readItems_last {fuel : Nat} {s rest : List Char} {d : Datum} (read : List Datum)
    (h : readValue fuel s = some (d, ']' :: rest)) :
    readItems (fuel + 1) read s = some (.list (d :: read).reverse, rest) := by
  simp [readItems, h, skip_cons (show isBlank ']' = false from rfl)]

theorem readItems_more {fuel : Nat} {s rest : List Char} {d : Datum} (read : List Datum)
    (h : readValue fuel s = some (d, ',' :: rest)) :
    readItems (fuel + 1) read s = readItems fuel (d :: read) rest := by
  simp [readItems, h, skip_cons (show isBlank ',' = false from rfl)]

theorem readItems_joined {items : List Datum} (hne : items ≠ []) (h : ∀ d ∈ items, ReadBack e d)
    {fuel : Nat} (hfuel : (joined (items.map (chars e))).length ≤ fuel) (read : List Datum)
    (rest : List Char) :
    readItems (fuel + 2) read (joined (items.map (chars e)) ++ ']' :: rest) =
      some (.list (read.reverse ++ items), rest) := by
  induction items generalizing fuel read with
  | nil => exact absurd rfl hne
  | cons d items ih =>
    obtain ⟨hd, hitems⟩ := List.forall_mem_cons.mp h
    cases items with
    | nil =>
      rw [List.map_singleton, joined] at hfuel ⊢
      rw [readItems_last _ (hd _ _ (.bracket rest) hfuel), List.reverse_cons]
    | cons d' items =>
      rw [List.map_cons, List.map_cons, joined, ← List.map_cons] at hfuel ⊢
      rw [List.length_append, List.length_cons] at hfuel
      obtain ⟨fuel, rfl⟩ := Nat.exists_eq_add_of_le' (show 1 ≤ fuel by omega)
      rw [List.append_assoc, List.cons_append, readItems_more _ (hd _ _ (.comma _) (by omega)),
        ih (List.cons_ne_nil _ _) hitems (by omega), List.reverse_cons, List.append_assoc]
      rfl

theorem readValue_items {c : Char} (hblank : isBlank c = false) (hclose : c ≠ ']') (fuel : Nat)
    (s : List Char) : readValue (fuel + 1) ('[' :: c :: s) = readItems fuel [] (c :: s) := by
  simp [readValue, skip_cons (show isBlank '[' = false from rfl), skip_cons hblank, hclose]

theorem readBack_list {items : List Datum} (hexact : ∀ d ∈ items, Exact d)
    (h : ∀ d ∈ items, ReadBack e d) : ReadBack e (.list items) := by
  intro fuel rest hrest hfuel
  rw [chars_list, List.length_append, List.length_cons, List.length_singleton] at hfuel
  rw [chars_list, List.append_assoc, List.cons_append, List.singleton_append]
  cases items with
  | nil => rfl
  | cons d items =>
    obtain ⟨fuel, rfl⟩ := Nat.exists_eq_add_of_le' (show 2 ≤ fuel by omega)
    have hlen : (joined ((d :: items).map (chars e))).length ≤ fuel := by omega
    have hread := readItems_joined (List.cons_ne_nil d items) h hlen [] rest
    obtain ⟨c, cs, hcs, hblank, hclose⟩ :=
      chars_eq_cons (e := e) (hexact d List.mem_cons_self)
    obtain ⟨s, hs⟩ : ∃ s, joined ((d :: items).map (chars e)) = c :: s := by
      cases items with
      | nil => exact ⟨cs, hcs⟩
      | cons d' items => exact ⟨_, by rw [List.map_cons, List.map_cons, joined, hcs]; rfl⟩
    rw [hs, List.cons_append] at hread ⊢
    rw [readValue_items hblank hclose, hread]
    rfl

theorem readFields_last {fuel : Nat} {s rest : List Char} {name : String} {d : Datum}
    (read : List (Scalar × Datum)) (h : readValue fuel s = some (d, '\x7d' :: rest)) :
    readFields (fuel + 1) read (quoted e name ++ ':' :: s) =
      some (.record ((.name name, d) :: read).reverse, rest) := by
  rw [quoted_append]
  simp [readFields, readText_quoted, h, skip_cons (show isBlank '"' = false from rfl),
    skip_cons (show isBlank ':' = false from rfl), skip_cons (show isBlank '\x7d' = false from rfl)]

theorem readFields_more {fuel : Nat} {s rest : List Char} {name : String} {d : Datum}
    (read : List (Scalar × Datum)) (h : readValue fuel s = some (d, ',' :: rest)) :
    readFields (fuel + 1) read (quoted e name ++ ':' :: s) =
      readFields fuel ((.name name, d) :: read) rest := by
  rw [quoted_append]
  simp [readFields, readText_quoted, h, skip_cons (show isBlank '"' = false from rfl),
    skip_cons (show isBlank ':' = false from rfl), skip_cons (show isBlank ',' = false from rfl)]

theorem readFields_joined {fields : List (String × Datum)} (hne : fields ≠ [])
    (h : ∀ f ∈ fields, ReadBack e f.2) {fuel : Nat}
    (hfuel : (joined (fields.map (fieldChars e))).length ≤ fuel) (read : List (Scalar × Datum))
    (rest : List Char) :
    readFields (fuel + 2) read (joined (fields.map (fieldChars e)) ++ '\x7d' :: rest) =
      some (.record (read.reverse ++ fields.map fun f => (.name f.1, f.2)), rest) := by
  induction fields generalizing fuel read with
  | nil => exact absurd rfl hne
  | cons f fields ih =>
    obtain ⟨hf, hfields⟩ := List.forall_mem_cons.mp h
    cases fields with
    | nil =>
      rw [List.map_singleton, joined, fieldChars] at hfuel ⊢
      rw [List.length_append, List.length_cons] at hfuel
      rw [List.append_assoc, List.cons_append,
        readFields_last _ (hf _ _ (.brace rest) (by omega)), List.reverse_cons]
      rfl
    | cons f' fields =>
      rw [List.map_cons, List.map_cons, joined, ← List.map_cons, fieldChars] at hfuel ⊢
      rw [List.length_append, List.length_append, List.length_cons, List.length_cons] at hfuel
      obtain ⟨fuel, rfl⟩ := Nat.exists_eq_add_of_le' (show 1 ≤ fuel by omega)
      rw [List.append_assoc, List.append_assoc, List.cons_append, List.cons_append,
        readFields_more _ (hf _ _ (.comma _) (by omega)),
        ih (List.cons_ne_nil _ _) hfields (by omega), List.reverse_cons, List.append_assoc]
      rfl

theorem readValue_fields (fuel : Nat) (s : List Char) :
    readValue (fuel + 1) ('\x7b' :: '"' :: s) = readFields fuel [] ('"' :: s) := by
  simp [readValue, skip_cons (show isBlank '\x7b' = false from rfl),
    skip_cons (show isBlank '"' = false from rfl)]

theorem readBack_named {fields : List (String × Datum)} (h : ∀ f ∈ fields, ReadBack e f.2) :
    ReadBack e (.named fields) := by
  intro fuel rest hrest hfuel
  rw [chars_named, List.length_append, List.length_cons, List.length_singleton] at hfuel
  rw [chars_named, List.append_assoc, List.cons_append, List.singleton_append]
  cases fields with
  | nil => rfl
  | cons f fields =>
    obtain ⟨fuel, rfl⟩ := Nat.exists_eq_add_of_le' (show 2 ≤ fuel by omega)
    have hlen : (joined ((f :: fields).map (fieldChars e))).length ≤ fuel := by omega
    have hread := readFields_joined (List.cons_ne_nil f fields) h hlen [] rest
    obtain ⟨s, hs⟩ : ∃ s, joined ((f :: fields).map (fieldChars e)) = '"' :: s := by
      cases fields with
      | nil => exact ⟨_, rfl⟩
      | cons f' fields => exact ⟨_, rfl⟩
    rw [hs, List.cons_append] at hread ⊢
    rw [readValue_fields, hread]
    rfl

theorem readBack_of_exact {d : Datum} (h : Exact d) : ReadBack e d := by
  induction h with
  | null => exact readBack_null
  | bool b => exact readBack_bool b
  | int h => exact readBack_int h
  | text s => exact readBack_text s
  | list hexact ih => exact readBack_list hexact ih
  | named _ ih => exact readBack_named ih

theorem read_writeWith {d : Datum} (h : Exact d) : read (writeWith e d) = some d := by
  have hread := readBack_of_exact (e := e) h _ [] (Or.inl rfl) (Nat.le_refl _)
  rw [List.append_nil] at hread
  rw [read, writeWith, String.toList_ofList]
  dsimp only
  rw [hread]
  rfl

end Watershed.Json
