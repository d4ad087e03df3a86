import Watershed.Decimal.Basic

namespace Watershed.Decimal

def halfEven (n d : Nat) : Nat :=
  let q := n / d
  let r := n % d
  if d < 2 * r ∨ (2 * r = d ∧ q % 2 = 1) then q + 1 else q

def excess (m : Nat) : Nat :=
  if m < mantissaBound then 0 else excess (m / 10) + 1
termination_by m
decreasing_by
  simp only [mantissaBound] at *
  omega

def fit? (negative : Bool) (m s : Nat) : Option Decimal :=
  let k := max (excess m) (s - scaleMax)
  if s < k then none
  else
    let q := halfEven m (Nat.pow 10 k)
    if q < mantissaBound then mk? negative q (s - k)
    else if s = k then none
    else mk? negative (halfEven q 10) (s - k - 1)

def add? (a b : Decimal) : Option Decimal :=
  if a.mantissa = 0 then some b
  else if b.mantissa = 0 then some a
  else
    let scale := max a.scale b.scale
    let sum := a.signedAt scale + b.signedAt scale
    fit? (sum < 0) sum.natAbs scale

def addUpTo (a b : Decimal) : Decimal :=
  (add? a b).getD (if a.negative then least else greatest)

def mul? (a b : Decimal) : Option Decimal :=
  if a.mantissa = 0 ∨ b.mantissa = 0 then some 0
  else
    let negative := a.negative != b.negative
    let scale := a.scale + b.scale
    let product := a.mantissa * b.mantissa
    if a.mantissa < 4294967296 ∧ b.mantissa < 4294967296 ∧ scaleMax < scale then
      if 47 < scale then some 0
      else
        let q := halfEven product (Nat.pow 10 (scale - scaleMax))
        mk? (negative && q ≠ 0) q scaleMax
    else fit? negative product scale

structure Quotient where
  digits : Nat
  rest : Nat
  scale : Int
  continued : Bool

def Quotient.room (q : Quotient) : Nat → Nat
  | 0 => 0
  | p + 1 =>
    if (p + 1 : Int) + q.scale ≤ scaleMax ∧ q.digits * Nat.pow 10 (p + 1) < mantissaBound then p + 1 else q.room p

def Quotient.dropLast (q : Quotient) : Option Quotient :=
  if q.scale ≤ 0 then none
  else
    let d := q.digits / 10
    let r := q.digits % 10
    let up := 5 < r ∨ (r = 5 ∧ (q.rest ≠ 0 ∨ d % 2 = 1))
    some { q with digits := if up then d + 1 else d, scale := q.scale - 1 }

def Quotient.finish (q : Quotient) (divisor : Nat) : Option Quotient :=
  if q.scale < 0 then none
  else
    let up := divisor < 2 * q.rest ∨ (2 * q.rest = divisor ∧ q.digits % 2 = 1)
    let d := if up then q.digits + 1 else q.digits
    if d < mantissaBound then some { q with digits := d }
    else if q.scale = 0 then none
    else some { q with digits := halfEven d 10, scale := q.scale - 1 }

/-- Long division in steps of up to nine digits. Each step raises the scale, which ends at 28, so
that 56 steps are enough from any scale. -/
def Quotient.extend (divisor : Nat) : Nat → Quotient → Option Quotient
  | 0, _ => none
  | fuel + 1, q =>
    if q.rest = 0 ∧ 0 ≤ q.scale then some q
    else
      let p := if q.rest = 0 then min 9 (-q.scale).toNat else q.room 9
      let continued := q.continued || q.rest ≠ 0
      if p = 0 then { q with continued := continued }.finish divisor
      else
        let digits := q.digits * Nat.pow 10 p
        let rest := q.rest * Nat.pow 10 p
        let next : Quotient :=
          ⟨digits + rest / divisor, rest % divisor, q.scale + p, continued⟩
        if mantissaBound ≤ digits then none
        else if mantissaBound ≤ next.digits then next.dropLast
        else Quotient.extend divisor fuel next

def stripZeros (n : Nat) (m : Nat × Nat) : Nat × Nat :=
  if n ≤ m.2 ∧ m.1 % Nat.pow 10 n = 0 then (m.1 / Nat.pow 10 n, m.2 - n) else m

def stripQuotient (m : Nat × Nat) : Nat × Nat :=
  let eights := (List.range 3).foldl (fun m _ => if m.1 % 4294967296 = 0 then stripZeros 8 m else m) m
  stripZeros 1 (stripZeros 2 (stripZeros 4 eights))

def div? (a b : Decimal) : Option Decimal :=
  if b.mantissa = 0 then none
  else if a.mantissa = 0 then some 0
  else do
    let start : Quotient :=
      ⟨a.mantissa / b.mantissa, a.mantissa % b.mantissa, (a.scale : Int) - b.scale, false⟩
    let q ← Quotient.extend b.mantissa 60 start
    let (m, s) :=
      if q.continued then stripQuotient (q.digits, q.scale.toNat) else (q.digits, q.scale.toNat)
    mk? ((a.negative != b.negative) && m ≠ 0) m s

end Watershed.Decimal
