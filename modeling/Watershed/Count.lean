namespace Watershed

structure Count where
  val : Nat
  val_lt : val < 18446744073709551616
deriving DecidableEq, Repr

namespace Count

theorem ext {a b : Count} (h : a.val = b.val) : a = b := by
  cases a; cases b; cases h; rfl

theorem val_inj {a b : Count} : a.val = b.val ↔ a = b :=
  ⟨ext, fun h => h ▸ rfl⟩

instance : OfNat Count 0 := ⟨⟨0, by decide⟩⟩
instance : OfNat Count 1 := ⟨⟨1, by decide⟩⟩
instance : Inhabited Count := ⟨0⟩

instance : LE Count := ⟨fun a b => a.val ≤ b.val⟩
instance : LT Count := ⟨fun a b => a.val < b.val⟩
instance (a b : Count) : Decidable (a ≤ b) := inferInstanceAs (Decidable (a.val ≤ b.val))
instance (a b : Count) : Decidable (a < b) := inferInstanceAs (Decidable (a.val < b.val))
instance : Min Count := ⟨fun a b => if a ≤ b then a else b⟩

@[simp] theorem val_zero : (0 : Count).val = 0 := rfl
@[simp] theorem val_one : (1 : Count).val = 1 := rfl

theorem lt_iff {a b : Count} : a < b ↔ a.val < b.val := Iff.rfl

@[simp] theorem val_min (a b : Count) : (min a b).val = min a.val b.val := by
  show (if a ≤ b then a else b).val = min a.val b.val
  split
  · rename_i h
    exact (Nat.min_eq_left h).symm
  · rename_i h
    exact (Nat.min_eq_right (Nat.le_of_lt (Nat.lt_of_not_le h))).symm

def top : Count := ⟨18446744073709551615, by decide⟩

def ofNat? (n : Nat) : Option Count :=
  if h : n < 18446744073709551616 then some ⟨n, h⟩ else none

theorem ofNat?_eq_some {n : Nat} {c : Count} : ofNat? n = some c ↔ n = c.val := by
  unfold ofNat?
  split
  · rename_i h
    constructor
    · intro e
      cases e
      rfl
    · intro e
      exact congrArg some (ext e)
  · rename_i h
    constructor
    · intro e
      cases e
    · intro e
      exact absurd (e ▸ c.val_lt) h

theorem ofNat?_eq_none {n : Nat} : ofNat? n = none ↔ 18446744073709551616 ≤ n := by
  unfold ofNat?
  split
  · rename_i h
    exact ⟨fun e => (by cases e), fun e => absurd h (Nat.not_lt.mpr e)⟩
  · rename_i h
    exact ⟨fun _ => Nat.not_lt.mp h, fun _ => rfl⟩

def ofInt? : Int → Option Count
  | .ofNat n => ofNat? n
  | .negSucc _ => none

def clamp (n : Nat) : Count :=
  if h : n < 18446744073709551616 then ⟨n, h⟩ else top

theorem val_clamp (n : Nat) : (clamp n).val = min n 18446744073709551615 := by
  unfold clamp
  split
  · rename_i h
    show n = min n 18446744073709551615
    omega
  · rename_i h
    show 18446744073709551615 = min n 18446744073709551615
    omega

def below (n : Nat) (c : Count) (h : n ≤ c.val) : Count :=
  ⟨n, Nat.lt_of_le_of_lt h c.val_lt⟩

def add? (a b : Count) : Option Count := ofNat? (a.val + b.val)

def mul? (a b : Count) : Option Count := ofNat? (a.val * b.val)

def sub? (a b : Count) : Option Count :=
  if b ≤ a then some (below (a.val - b.val) a (Nat.sub_le ..)) else none

def addUpTo (a b : Count) : Count := clamp (a.val + b.val)

def subDownTo (a b : Count) : Count := below (a.val - b.val) a (Nat.sub_le ..)

def quot (a : Count) (n : Nat) : Count := below (a.val / n) a (Nat.div_le_self ..)

theorem add?_eq_some {a b c : Count} : add? a b = some c ↔ a.val + b.val = c.val :=
  ofNat?_eq_some

theorem sub?_eq_some {a b c : Count} : sub? a b = some c ↔ b.val + c.val = a.val := by
  unfold sub?
  split
  · rename_i h
    have h' : b.val ≤ a.val := h
    constructor
    · intro e
      cases e
      exact Nat.add_sub_cancel' h'
    · intro e
      refine congrArg some (ext ?_)
      show a.val - b.val = c.val
      omega
  · rename_i h
    have h' : ¬ b.val ≤ a.val := h
    constructor
    · intro e
      cases e
    · intro e
      omega

@[simp] theorem val_addUpTo (a b : Count) :
    (addUpTo a b).val = min (a.val + b.val) 18446744073709551615 := val_clamp _

@[simp] theorem val_subDownTo (a b : Count) : (subDownTo a b).val = a.val - b.val := rfl

@[simp] theorem val_quot (a : Count) (n : Nat) : (quot a n).val = a.val / n := rfl

def wideTop : Nat := 340282366920938463463374607431768211455

def total : List Count → Nat
  | [] => 0
  | c :: cs => c.val + total cs

theorem total_append (cs ds : List Count) : total (cs ++ ds) = total cs + total ds := by
  induction cs with
  | nil => simp [total]
  | cons c cs ih => simp only [List.cons_append, total, ih, Nat.add_assoc]

def wideSum (cs : List Count) : Nat := min (total cs) wideTop

def sumUpTo (cs : List Count) : Count := clamp (total cs)

def text (c : Count) : String := String.ofList (Nat.toDigits 10 c.val)

end Count
end Watershed
