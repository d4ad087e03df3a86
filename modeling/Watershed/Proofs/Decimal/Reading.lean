import Watershed.Decimal.Reader
import Watershed.Proofs.Text.Numeral

namespace Watershed.Decimal

theorem digit?_of_isDigit {c : Char} (h : c.isDigit = true) :
    Text.digit? c = some (c.toNat - '0'.toNat) := by
  have hrange : c.val ≥ '0'.val ∧ c.val ≤ '9'.val := by
    simpa only [Char.isDigit, Bool.and_eq_true, decide_eq_true_eq] using h
  exact if_pos hrange

def Numeral.push (n : Numeral) (c : Char) : Numeral :=
  ⟨n.pointSeen, true, 10 * n.mantissa + (c.toNat - '0'.toNat), if n.pointSeen then n.scale + 1 else 0⟩

theorem le_ofDigitChars (cs : List Char) (m : Nat) : m ≤ Nat.ofDigitChars 10 cs m := by
  rw [Nat.ofDigitChars_eq_ofDigitChars_zero]
  exact Nat.le_trans (Nat.le_mul_of_pos_left m (Nat.pow_pos (by decide))) (Nat.le_add_right _ _)

theorem Numeral.read_digits {cs : List Char} (hd : ∀ c ∈ cs, c.isDigit = true) (rest : List Char)
    {n : Numeral} (hscale : n.pointSeen = true → n.scale + cs.length ≤ scaleMax)
    (hroom : Nat.ofDigitChars 10 cs n.mantissa < mantissaBound) :
    Numeral.read n (cs ++ rest) = Numeral.read (cs.foldl push n) rest := by
  induction cs generalizing n with
  | nil => rfl
  | cons c cs ih =>
    obtain ⟨hc, hcs⟩ := List.forall_mem_cons.mp hd
    rw [Nat.ofDigitChars_cons] at hroom
    have hfits : ¬ mantissaBound ≤ n.mantissa * 10 + (c.toNat - '0'.toNat) := by
      rw [Nat.mul_comm]
      exact Nat.not_le.mpr (Nat.lt_of_le_of_lt (le_ofDigitChars cs _) hroom)
    have hplaces : ¬ (n.pointSeen = true ∧ scaleMax ≤ n.scale) := by
      rintro ⟨hp, hs⟩
      have := hscale hp
      simp only [List.length_cons] at this
      omega
    rw [List.cons_append, Numeral.read, digit?_of_isDigit hc]
    dsimp only
    rw [if_neg hplaces, if_neg hfits, Nat.mul_comm]
    refine ih hcs (n := n.push c) (fun hp => ?_) hroom
    have := hscale hp
    simp only [List.length_cons] at this
    simp only [push, if_pos (show n.pointSeen = true from hp)]
    omega

theorem Numeral.foldl_push (cs : List Char) (n : Numeral) :
    (cs.foldl push n).pointSeen = n.pointSeen ∧
      (cs.foldl push n).mantissa = Nat.ofDigitChars 10 cs n.mantissa ∧
      (n.pointSeen = true → (cs.foldl push n).scale = n.scale + cs.length) ∧
      (n.pointSeen = false → n.scale = 0 → (cs.foldl push n).scale = 0) ∧
      (cs ≠ [] ∨ n.digitSeen = true → (cs.foldl push n).digitSeen = true) := by
  induction cs generalizing n with
  | nil => exact ⟨rfl, rfl, fun _ => rfl, fun _ hs => hs, fun h => h.resolve_left fun hne => hne rfl⟩
  | cons c cs ih =>
    obtain ⟨hpoint, hmantissa, hafter, hbefore, hseen⟩ := ih (n.push c)
    refine ⟨hpoint, hmantissa, fun hp => ?_, fun hp _ => hbefore hp ?_, fun _ => hseen (Or.inr rfl)⟩
    · rw [List.foldl_cons, hafter hp, push, List.length_cons]
      simp only [if_pos hp]
      omega
    · simp [push, hp]

theorem Numeral.read_nil {n : Numeral} (h : n.digitSeen = true) : Numeral.read n [] = .ok n := by
  rw [Numeral.read, if_pos h]

def digitsOf (d : Decimal) : List Char :=
  List.replicate (d.scale + 1 - (Nat.toDigits 10 d.mantissa).length) '0' ++
    Nat.toDigits 10 d.mantissa

theorem isDigit_digitsOf (d : Decimal) : ∀ c ∈ d.digitsOf, c.isDigit = true :=
  Text.isDigit_padded _ d.mantissa

theorem ofDigitChars_digitsOf (d : Decimal) : Nat.ofDigitChars 10 d.digitsOf 0 = d.mantissa := by
  rw [digitsOf, Nat.ofDigitChars_append, Nat.ofDigitChars_replicate_zero, Nat.mul_zero,
    Nat.ofDigitChars_ten_toDigits]

theorem lt_length_digitsOf (d : Decimal) : d.scale < d.digitsOf.length := by
  rw [digitsOf, List.length_append, List.length_replicate]
  omega

theorem text_of_scale_zero {d : Decimal} (h : d.negative = false) (hs : d.scale = 0) :
    d.text.toList = d.digitsOf := by
  rw [text, h, fractionText, if_pos hs, hs]
  simp only [Bool.false_eq_true, if_false, String.toList_ofList, Nat.sub_zero, List.take_length,
    digitsOf, hs]

theorem text_of_scale_ne_zero {d : Decimal} (h : d.negative = false) (hs : d.scale ≠ 0) :
    d.text.toList = d.digitsOf.take (d.digitsOf.length - d.scale) ++
      '.' :: d.digitsOf.drop (d.digitsOf.length - d.scale) := by
  rw [text, h, fractionText, if_neg hs]
  simp only [Bool.false_eq_true, if_false, String.toList_ofList, digitsOf]

theorem mem_text {d : Decimal} (h : d.negative = false) {c : Char} (hc : c ∈ d.text.toList) :
    c.isDigit = true ∨ c = '.' := by
  by_cases hs : d.scale = 0
  · rw [text_of_scale_zero h hs] at hc
    exact Or.inl (isDigit_digitsOf d c hc)
  · rw [text_of_scale_ne_zero h hs] at hc
    rcases List.mem_append.mp hc with hc | hc
    · exact Or.inl (isDigit_digitsOf d c (List.mem_of_mem_take hc))
    rcases List.mem_cons.mp hc with rfl | hc
    · exact Or.inr rfl
    · exact Or.inl (isDigit_digitsOf d c (List.mem_of_mem_drop hc))

def Numeral.start : Numeral := ⟨false, false, 0, 0⟩

theorem Numeral.read_whole {cs : List Char} (hd : ∀ c ∈ cs, c.isDigit = true) (hne : cs ≠ [])
    (hroom : Nat.ofDigitChars 10 cs 0 < mantissaBound) :
    ∃ n, Numeral.read start cs = .ok n ∧ n.mantissa = Nat.ofDigitChars 10 cs 0 ∧ n.scale = 0 := by
  obtain ⟨_, hmantissa, _, hbefore, hseen⟩ := foldl_push cs start
  refine ⟨cs.foldl push start, ?_, hmantissa, hbefore rfl rfl⟩
  have hread := read_digits hd [] (n := start) (fun hp => by cases hp) hroom
  rw [List.append_nil] at hread
  rw [hread, read_nil (hseen (Or.inl hne))]

theorem Numeral.read_pointed {cs ds : List Char} (hc : ∀ c ∈ cs, c.isDigit = true)
    (hd : ∀ c ∈ ds, c.isDigit = true) (hne : cs ≠ []) (hscale : ds.length ≤ scaleMax)
    (hroom : Nat.ofDigitChars 10 (cs ++ ds) 0 < mantissaBound) :
    ∃ n, Numeral.read start (cs ++ '.' :: ds) = .ok n ∧
      n.mantissa = Nat.ofDigitChars 10 (cs ++ ds) 0 ∧ n.scale = ds.length := by
  rw [Nat.ofDigitChars_append] at hroom ⊢
  obtain ⟨hpoint, hmantissa, _, hbefore, hseen⟩ := foldl_push cs start
  have hwhole := read_digits hc ('.' :: ds) (n := start) (fun hp => by cases hp)
    (Nat.lt_of_le_of_lt (le_ofDigitChars ds _) hroom)
  generalize cs.foldl push start = n at *
  have hscale₀ : n.scale = 0 := hbefore rfl rfl
  have hdot : Numeral.read n ('.' :: ds) = Numeral.read { n with pointSeen := true } ds := by
    rw [Numeral.read, show Text.digit? '.' = none from rfl]
    exact if_pos ⟨rfl, hpoint⟩
  have hmantissa₀ : n.mantissa = Nat.ofDigitChars 10 cs 0 := hmantissa
  have hrest := read_digits hd [] (n := { n with pointSeen := true })
    (fun _ => by rw [hscale₀]; omega) (by rw [hmantissa₀]; exact hroom)
  obtain ⟨_, hmantissa', hafter', _, hseen'⟩ := foldl_push ds { n with pointSeen := true }
  refine ⟨ds.foldl push { n with pointSeen := true }, ?_, ?_, ?_⟩
  · rw [List.append_nil] at hrest
    rw [hwhole, hdot, hrest, read_nil (hseen' (Or.inr (hseen (Or.inl hne))))]
  · rw [hmantissa', hmantissa₀]
  · rw [hafter' rfl, hscale₀, Nat.zero_add]

theorem Numeral.read_text {d : Decimal} (h : d.negative = false) :
    ∃ n, Numeral.read start d.text.toList = .ok n ∧ n.mantissa = d.mantissa ∧ n.scale = d.scale := by
  have hdigits := isDigit_digitsOf d
  have hvalue := ofDigitChars_digitsOf d
  have hlength := lt_length_digitsOf d
  by_cases hs : d.scale = 0
  · rw [text_of_scale_zero h hs, hs, ← hvalue]
    exact read_whole hdigits (List.ne_nil_of_length_pos (Nat.zero_lt_of_lt hlength))
      (hvalue ▸ d.mantissa_lt)
  · rw [text_of_scale_ne_zero h hs]
    have hwhole : (d.digitsOf.take (d.digitsOf.length - d.scale)).length ≠ 0 := by
      rw [List.length_take]
      omega
    have hplaces : (d.digitsOf.drop (d.digitsOf.length - d.scale)).length = d.scale := by
      rw [List.length_drop]
      omega
    have hparts := List.take_append_drop (d.digitsOf.length - d.scale) d.digitsOf
    have hread := read_pointed (fun c hc => hdigits c (List.mem_of_mem_take hc))
      (fun c hc => hdigits c (List.mem_of_mem_drop hc)) (fun e => hwhole (by rw [e]; rfl))
      (by rw [hplaces]; exact d.scale_le) (by rw [hparts, hvalue]; exact d.mantissa_lt)
    rwa [hparts, hvalue, hplaces] at hread

theorem read_text {d : Decimal} (h : d.negative = false) : read d.text.toList = .ok d := by
  obtain ⟨n, hn, hmantissa, hscale⟩ := Numeral.read_text h
  have hplain : readPlain d.text.toList = .ok d := by
    have hmem := fun c => mem_text h (c := c)
    unfold readPlain
    split
    · rename_i hnil
      rw [hnil] at hn
      cases hn
    · rename_i t ht
      rw [ht] at hmem
      exact absurd (hmem '-' List.mem_cons_self) (by decide)
    · rename_i t ht
      rw [ht] at hmem
      exact absurd (hmem '+' List.mem_cons_self) (by decide)
    · show (Numeral.read Numeral.start d.text.toList >>= fun n => n.toDecimal false) = .ok d
      rw [hn]
      show n.toDecimal false = .ok d
      rw [Numeral.toDecimal, Bool.false_and, mk?_eq_some.mpr ⟨h, hmantissa.symm, hscale.symm⟩]
  rw [read, hplain]

def unsignZero (d : Decimal) : Decimal := { d with negative := d.negative && d.mantissa ≠ 0 }

theorem signed_unsignZero (d : Decimal) : d.unsignZero.signed = d.signed := by
  unfold signed unsignZero
  by_cases hm : d.mantissa = 0
  · simp [hm]
  · simp [hm]

theorem text_of_negative {d : Decimal} (h : d.negative = true) :
    d.text.toList = '-' :: (text { d with negative := false }).toList := by
  simp [text, h]

theorem read_text_unsignZero (d : Decimal) : read d.text.toList = .ok d.unsignZero := by
  cases h : d.negative with
  | false =>
    rw [read_text h]
    exact congrArg Except.ok (ext (by simp [unsignZero, h]) rfl rfl)
  | true =>
    obtain ⟨n, hn, hmantissa, hscale⟩ := Numeral.read_text (d := { d with negative := false }) rfl
    have hplain : readPlain d.text.toList = .ok d.unsignZero := by
      rw [text_of_negative h]
      show (Numeral.read Numeral.start _ >>= fun n => n.toDecimal true) = .ok d.unsignZero
      rw [hn]
      show n.toDecimal true = .ok d.unsignZero
      have hmade : mk? (true && n.mantissa ≠ 0) n.mantissa n.scale = some d.unsignZero :=
        mk?_eq_some.mpr ⟨by rw [hmantissa, unsignZero, h], hmantissa.symm, hscale.symm⟩
      rw [Numeral.toDecimal, hmade]
    rw [read, hplain]

end Watershed.Decimal
