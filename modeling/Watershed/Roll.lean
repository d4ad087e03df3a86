import Watershed.Count

namespace Watershed

class Key (κ : Type) extends LT κ where
  decLt : (a b : κ) → Decidable (a < b)
  irrefl : ∀ a : κ, ¬ a < a
  trans : ∀ {a b c : κ}, a < b → b < c → a < c
  connex : ∀ {a b : κ}, ¬ a < b → ¬ b < a → a = b

namespace Key

instance {κ : Type} [Key κ] (a b : κ) : Decidable (a < b) := decLt a b

@[reducible] def ofRank {κ : Type} (rank : κ → Nat)
    (injective : ∀ {a b : κ}, rank a = rank b → a = b) : Key κ where
  lt a b := rank a < rank b
  decLt a b := inferInstanceAs (Decidable (rank a < rank b))
  irrefl a := Nat.lt_irrefl (rank a)
  trans h k := Nat.lt_trans h k
  connex h k := injective (Nat.le_antisymm (Nat.not_lt.mp k) (Nat.not_lt.mp h))

instance : Key String where
  decLt a b := inferInstanceAs (Decidable (a < b))
  irrefl a := String.lt_irrefl a
  trans h k := String.lt_trans h k
  connex h k := String.le_antisymm (String.not_lt.mp k) (String.not_lt.mp h)

instance : Key Count := ofRank Count.val Count.ext

theorem ne_of_lt {κ : Type} [Key κ] {a b : κ} (h : a < b) : a ≠ b :=
  fun e => irrefl b (e ▸ h)

theorem asymm {κ : Type} [Key κ] {a b : κ} (h : a < b) : ¬ b < a :=
  fun k => irrefl a (trans h k)

end Key

class Keyed (α : Type) (κ : outParam Type) where
  key : α → κ

export Keyed (key)

instance {κ ν : Type} : Keyed (κ × ν) κ := ⟨Prod.fst⟩

variable {α β κ : Type} [Key κ] [Keyed α κ] [Keyed β κ]

def Ascending (l : List α) : Prop := l.Pairwise fun a b => key a < key b

structure Roll (α : Type) {κ : Type} [Key κ] [Keyed α κ] where
  toList : List α
  ascending : Ascending toList

namespace Roll

instance [Repr α] : Repr (Roll α) := ⟨fun r n => reprPrec r.toList n⟩

theorem ext {r s : Roll α} (h : r.toList = s.toList) : r = s := by
  cases r; cases s; cases h; rfl

instance [DecidableEq α] : DecidableEq (Roll α) := fun r s =>
  if h : r.toList = s.toList then .isTrue (ext h) else .isFalse fun e => h (e ▸ rfl)

def empty : Roll α := ⟨[], List.Pairwise.nil⟩

instance : EmptyCollection (Roll α) := ⟨empty⟩
instance : Inhabited (Roll α) := ⟨empty⟩

def size (r : Roll α) : Nat := r.toList.length

def place (a : α) : List α → List α
  | [] => [a]
  | b :: l =>
    if key a < key b then a :: b :: l
    else if key b < key a then b :: place a l
    else a :: l

theorem mem_place {a b : α} {l : List α} (h : Ascending l) :
    b ∈ place a l ↔ b = a ∨ (b ∈ l ∧ key b ≠ key a) := by
  induction l with
  | nil => simp [place]
  | cons c l ih =>
    have hc : ∀ d ∈ l, key c < key d :=
      fun _ hd => List.rel_of_pairwise_cons h hd
    have hl : Ascending l := h.tail
    simp only [place]
    split
    · rename_i hac
      have hne : ∀ d ∈ c :: l, key d ≠ key a := by
        intro d hd e
        rcases List.mem_cons.mp hd with rfl | hd
        · exact Key.irrefl _ (e ▸ hac)
        · exact Key.irrefl _ (e ▸ Key.trans hac (hc d hd))
      constructor
      · intro hb
        rcases List.mem_cons.mp hb with rfl | hb
        · exact Or.inl rfl
        · exact Or.inr ⟨hb, hne b hb⟩
      · rintro (rfl | ⟨hb, _⟩)
        · exact List.mem_cons_self
        · exact List.mem_cons_of_mem _ hb
    · split
      · rename_i hca
        have hne : key c ≠ key a := Key.ne_of_lt hca
        rw [List.mem_cons, ih hl, List.mem_cons]
        constructor
        · rintro (rfl | rfl | ⟨hb, hk⟩)
          · exact Or.inr ⟨Or.inl rfl, hne⟩
          · exact Or.inl rfl
          · exact Or.inr ⟨Or.inr hb, hk⟩
        · rintro (rfl | ⟨rfl | hb, hk⟩)
          · exact Or.inr (Or.inl rfl)
          · exact Or.inl rfl
          · exact Or.inr (Or.inr ⟨hb, hk⟩)
      · rename_i hac hca
        have hk : key a = key c := Key.connex hac hca
        rw [List.mem_cons, List.mem_cons]
        constructor
        · rintro (rfl | hb)
          · exact Or.inl rfl
          · exact Or.inr ⟨Or.inr hb, fun e => Key.ne_of_lt (hc b hb) (e.trans hk).symm⟩
        · rintro (rfl | ⟨rfl | hb, hne⟩)
          · exact Or.inl rfl
          · exact absurd hk.symm hne
          · exact Or.inr hb

theorem ascending_place {a : α} {l : List α} (h : Ascending l) : Ascending (place a l) := by
  induction l with
  | nil => exact List.pairwise_singleton ..
  | cons c l ih =>
    have hc : ∀ d ∈ l, key c < key d :=
      fun _ hd => List.rel_of_pairwise_cons h hd
    have hl : Ascending l := h.tail
    simp only [place]
    split
    · rename_i hac
      refine List.pairwise_cons.mpr ⟨?_, h⟩
      intro d hd
      rcases List.mem_cons.mp hd with rfl | hd
      · exact hac
      · exact Key.trans hac (hc d hd)
    · split
      · rename_i hca
        refine List.pairwise_cons.mpr ⟨?_, ih hl⟩
        intro d hd
        rcases (mem_place hl).mp hd with rfl | ⟨hd, _⟩
        · exact hca
        · exact hc d hd
      · rename_i hac hca
        refine List.pairwise_cons.mpr ⟨?_, hl⟩
        intro d hd
        exact Key.connex hac hca ▸ hc d hd

def put (r : Roll α) (a : α) : Roll α := ⟨place a r.toList, ascending_place r.ascending⟩

theorem mem_put {r : Roll α} {a b : α} :
    b ∈ (r.put a).toList ↔ b = a ∨ (b ∈ r.toList ∧ key b ≠ key a) :=
  mem_place r.ascending

def seek (k : κ) : List α → Option α
  | [] => none
  | a :: l => if k < key a then none else if key a < k then seek k l else some a

theorem seek_eq_some {k : κ} {a : α} {l : List α} (h : Ascending l) :
    seek k l = some a ↔ a ∈ l ∧ key a = k := by
  induction l with
  | nil => simp [seek]
  | cons c l ih =>
    have hc : ∀ d ∈ l, key c < key d :=
      fun _ hd => List.rel_of_pairwise_cons h hd
    simp only [seek]
    split
    · rename_i hk
      constructor
      · intro e
        cases e
      · rintro ⟨ha, rfl⟩
        rcases List.mem_cons.mp ha with rfl | ha
        · exact absurd hk (Key.irrefl _)
        · exact absurd (hc a ha) (Key.asymm hk)
    · split
      · rename_i hck
        rw [ih h.tail, List.mem_cons]
        constructor
        · exact fun e => ⟨Or.inr e.1, e.2⟩
        · rintro ⟨rfl | ha, e⟩
          · exact absurd e (Key.ne_of_lt hck)
          · exact ⟨ha, e⟩
      · rename_i hk hck
        have hkc : k = key c := Key.connex hk hck
        constructor
        · intro e
          cases e
          exact ⟨List.mem_cons_self, hkc.symm⟩
        · rintro ⟨ha, e⟩
          rcases List.mem_cons.mp ha with rfl | ha
          · rfl
          · exact absurd (hkc.symm.trans e.symm) (Key.ne_of_lt (hc a ha))

def find? (r : Roll α) (k : κ) : Option α := seek k r.toList

theorem find?_eq_some {r : Roll α} {k : κ} {a : α} :
    r.find? k = some a ↔ a ∈ r.toList ∧ key a = k :=
  seek_eq_some r.ascending

theorem key_of_find? {r : Roll α} {k : κ} {a : α} (h : r.find? k = some a) : key a = k :=
  (find?_eq_some.mp h).2

theorem mem_of_find? {r : Roll α} {k : κ} {a : α} (h : r.find? k = some a) : a ∈ r.toList :=
  (find?_eq_some.mp h).1

theorem find?_of_mem {r : Roll α} {a : α} (h : a ∈ r.toList) : r.find? (key a) = some a :=
  find?_eq_some.mpr ⟨h, rfl⟩

def contains (r : Roll α) (k : κ) : Bool := (r.find? k).isSome

theorem find?_put_self (r : Roll α) (a : α) : (r.put a).find? (key a) = some a :=
  find?_eq_some.mpr ⟨mem_put.mpr (Or.inl rfl), rfl⟩

theorem find?_put_of_ne {r : Roll α} {a : α} {k : κ} (h : key a ≠ k) :
    (r.put a).find? k = r.find? k := by
  refine Option.ext fun b => ?_
  rw [find?_eq_some, find?_eq_some, mem_put]
  constructor
  · rintro ⟨rfl | ⟨hb, _⟩, hk⟩
    · exact absurd hk h
    · exact ⟨hb, hk⟩
  · rintro ⟨hb, rfl⟩
    exact ⟨Or.inr ⟨hb, fun e => h e.symm⟩, rfl⟩

/-- The roll of the entries of a list; of two with one key the later is kept. The last entry is entered
first, so that a list in order is entered at the front throughout. -/
def ofList : List α → Roll α :=
  List.foldr (fun a r => if r.contains (key a) then r else r.put a) empty

theorem ofList_cons (a : α) (l : List α) :
    ofList (a :: l) = if (ofList l).contains (key a) then ofList l else (ofList l).put a := rfl

def filter (p : α → Bool) (r : Roll α) : Roll α :=
  ⟨r.toList.filter p, r.ascending.filter p⟩

def erase [DecidableEq κ] (r : Roll α) (k : κ) : Roll α := r.filter fun a => key a ≠ k

def map (f : α → β) (h : ∀ a, key (f a) = key a) (r : Roll α) : Roll β :=
  ⟨r.toList.map f, by
    refine List.pairwise_map.mpr (r.ascending.imp ?_)
    intro a b hab
    rw [h, h]
    exact hab⟩

def tabulate {ν : Type} (f : α → ν) (r : Roll α) : Roll (κ × ν) :=
  r.map (fun a => (key a, f a)) fun _ => rfl

def keys (r : Roll α) : List κ := r.toList.map key

end Roll
end Watershed
