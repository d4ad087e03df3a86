import Watershed.Decimal.Reader

namespace Watershed

structure Binary64 where
  negative : Bool
  mantissa : Nat
  exponent : Int
deriving DecidableEq, Repr

namespace Binary64

def mantissaBound : Nat := 9007199254740992

def leadingBit : Nat := 4503599627370496

def exponentMin : Int := -1074

def exponentMax : Int := 971

def zero (negative : Bool) : Binary64 := ⟨negative, 0, exponentMin⟩

def powered (n base : Nat) (e : Int) : Nat × Nat :=
  (n * Nat.pow base e.toNat, Nat.pow base (-e).toNat)

def unitFor (num den : Nat) : Int :=
  let low : Int := (Nat.log2 num : Int) - Nat.log2 den - 53
  let (top, bottom) := powered (den * mantissaBound) 2 low
  max exponentMin (if top ≤ num * bottom then low + 1 else low)

def nearest? (negative : Bool) (num den : Nat) : Option Binary64 :=
  if num = 0 then some (zero negative)
  else
    let unit := unitFor num den
    let (divisor, factor) := powered den 2 unit
    let m := Decimal.halfEven (num * factor) divisor
    let (m, unit) := if m = mantissaBound then (leadingBit, unit + 1) else (m, unit)
    if exponentMax < unit then none else some ⟨negative, m, unit⟩

def ofDigits? (negative : Bool) (n : Nat) (e : Int) : Option Binary64 :=
  let magnitude := e + (Nat.toDigits 10 n).length
  if n = 0 ∨ magnitude < -330 then some (zero negative)
  else if 330 < magnitude then none
  else
    let (num, den) := powered n 10 e
    nearest? negative num den

def fraction (x : Binary64) : Nat × Nat := powered x.mantissa 2 x.exponent

def mul? (a b : Binary64) : Option Binary64 :=
  let (an, ad) := a.fraction
  let (bn, bd) := b.fraction
  nearest? (a.negative != b.negative) (an * bn) (ad * bd)

def div? (a b : Binary64) : Option Binary64 :=
  let (an, ad) := a.fraction
  let (bn, bd) := b.fraction
  if bn = 0 then none else nearest? (a.negative != b.negative) (an * bd) (ad * bn)

structure Range where
  unit : Int
  low : Nat
  middle : Nat
  high : Nat
  closed : Bool

def range (x : Binary64) : Range :=
  let m := 4 * x.mantissa
  let low := if x.mantissa = leadingBit ∧ exponentMin < x.exponent then m - 1 else m - 2
  ⟨x.exponent - 2, low, m, m + 2, x.mantissa % 2 = 0⟩

def Range.holds (r : Range) (num den : Nat) : Bool :=
  if r.closed then r.low * den ≤ num && num ≤ r.high * den
  else r.low * den < num && num < r.high * den

def Range.pick (r : Range) (e : Int) : Option (Nat × Int) :=
  let (gridNum, gridDen) := powered 1 10 e
  let (unitNum, unitDen) := powered 1 2 r.unit
  let num := gridNum * unitDen
  let den := gridDen * unitNum
  let below := r.middle * den / num
  let low := r.holds (below * num) den
  let high := r.holds ((below + 1) * num) den
  let highNearer := (2 * below + 1) * num ≤ 2 * (r.middle * den)
  if high ∧ (highNearer ∨ low = false) then some (below + 1, e)
  else if low then some (below, e)
  else none

def magnitude (x : Binary64) : Int :=
  let (num, den) := x.fraction
  ((Nat.toDigits 10 (num * Nat.pow 10 350 / den)).length : Int) - 350

def dropZero (n : Nat) (e : Int) : Nat × Int := if n % 10 = 0 then (n / 10, e + 1) else (n, e)

/-- The fewest digits that read back as the number, and the power of ten of the last one. Seventeen
digits are always enough. Only a number just below a power of ten, which is rounded up to it, is
found with a zero at the end. -/
def shortest (x : Binary64) : Nat × Int :=
  match (List.range 17).findSome? fun k => x.range.pick (x.magnitude - (k + 1 : Nat)) with
  | some (n, e) => dropZero n e
  | none => (0, 0)

def text (x : Binary64) : List Char :=
  let body :=
    if x.mantissa = 0 then ['0']
    else
      let (n, e) := x.shortest
      Decimal.fractionText (Nat.toDigits 10 n ++ List.replicate e.toNat '0') (-e).toNat
  if x.negative then '-' :: body else body

def toDecimal (x : Binary64) : Except Decimal.Fault Decimal := Decimal.read x.text

end Binary64
end Watershed
