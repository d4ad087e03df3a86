import Watershed.Count

namespace Watershed

abbrev Decimal.mantissaBound : Nat := 79228162514264337593543950336

abbrev Decimal.scaleMax : Nat := 28

structure Decimal where
  negative : Bool
  mantissa : Nat
  scale : Nat
  mantissa_lt : mantissa < Decimal.mantissaBound
  scale_le : scale ≤ Decimal.scaleMax
deriving DecidableEq, Repr

namespace Decimal

theorem ext {a b : Decimal} (hn : a.negative = b.negative) (hm : a.mantissa = b.mantissa)
    (hs : a.scale = b.scale) : a = b := by
  cases a; cases b; cases hn; cases hm; cases hs; rfl

def mk? (negative : Bool) (mantissa scale : Nat) : Option Decimal :=
  if h : mantissa < mantissaBound ∧ scale ≤ scaleMax then some ⟨negative, mantissa, scale, h.1, h.2⟩ else none

theorem mk?_eq_some {n : Bool} {m s : Nat} {d : Decimal} :
    mk? n m s = some d ↔ d.negative = n ∧ d.mantissa = m ∧ d.scale = s := by
  unfold mk?
  split
  · rename_i h
    constructor
    · intro e
      cases e
      exact ⟨rfl, rfl, rfl⟩
    · rintro ⟨rfl, rfl, rfl⟩
      rfl
  · rename_i h
    constructor
    · intro e
      cases e
    · rintro ⟨_, rfl, rfl⟩
      exact absurd ⟨d.mantissa_lt, d.scale_le⟩ h

def ofCount (c : Count) : Decimal :=
  ⟨false, c.val, 0, Nat.lt_trans c.val_lt (by decide), Nat.zero_le _⟩

instance : OfNat Decimal 0 := ⟨⟨false, 0, 0, by decide, by decide⟩⟩
instance : OfNat Decimal 1 := ⟨⟨false, 1, 0, by decide, by decide⟩⟩
instance : Inhabited Decimal := ⟨0⟩

def greatest : Decimal := ⟨false, mantissaBound - 1, 0, by decide, by decide⟩

def least : Decimal := ⟨true, mantissaBound - 1, 0, by decide, by decide⟩

def signed (d : Decimal) : Int := if d.negative then -(d.mantissa : Int) else d.mantissa

def signedAt (d : Decimal) (scale : Nat) : Int := d.signed * Nat.pow 10 (scale - d.scale)

def before (a b : Decimal) : Bool :=
  let scale := max a.scale b.scale
  a.signedAt scale < b.signedAt scale

def ceil (d : Decimal) : Decimal :=
  if d.scale = 0 then d
  else
    let whole := d.mantissa / Nat.pow 10 d.scale
    let up := if d.negative ∨ d.mantissa % Nat.pow 10 d.scale = 0 then 0 else 1
    ((mk? (d.negative && whole ≠ 0) (whole + up) 0)).getD d

def toCount? (d : Decimal) : Option Count :=
  if d.negative then none else Count.ofNat? (d.mantissa / Nat.pow 10 d.scale)

def fractionText (digits : List Char) (scale : Nat) : List Char :=
  let padded := List.replicate (scale + 1 - digits.length) '0' ++ digits
  let whole := padded.take (padded.length - scale)
  if scale = 0 then whole else whole ++ '.' :: padded.drop (padded.length - scale)

def text (d : Decimal) : String :=
  let body := fractionText (Nat.toDigits 10 d.mantissa) d.scale
  String.ofList (if d.negative then '-' :: body else body)

end Decimal
end Watershed
