import Watershed.Board
import Watershed.Decimal.Arith
import Watershed.Economy.Multipliers

namespace Watershed

inductive RevenueFault
  | overflow
deriving DecidableEq, Repr

def RevenueFault.message : RevenueFault → String
  | .overflow => "arithmetic overflow in revenue calculation"

abbrev Revenue := Roll (PlayerId × Decimal)

namespace Asset

def revenue? (m : Multipliers) (a : Asset) : Option Decimal := do
  let full ← a.nominal.mul? (m.get a.kind a.level)
  if a.FullyWatered then some full
  else if a.divisible = false ∨ a.allocated = 0 then some 0
  else do
    let scaled ← full.mul? (.ofCount a.allocated)
    scaled.div? (.ofCount a.usage)

def revenue (m : Multipliers) (a : Asset) : Except RevenueFault Decimal :=
  match a.revenue? m with
  | some r => .ok r
  | none => .error .overflow

end Asset

namespace Revenue

def of (r : Revenue) (p : PlayerId) : Decimal :=
  match r.find? p with
  | some (_, n) => n
  | none => 0

def add? (r : Revenue) (p : PlayerId) (n : Decimal) : Option Revenue :=
  ((r.of p).add? n).map fun total => r.put (p, total)

def byPlayer? (m : Multipliers) (assets : List Asset) : Option Revenue :=
  assets.foldlM (fun r a => do r.add? a.owner (← a.revenue? m)) .empty

def byPlayer (m : Multipliers) (assets : List Asset) : Except RevenueFault Revenue :=
  match byPlayer? m assets with
  | some r => .ok r
  | none => .error .overflow

def total (r : Revenue) : Decimal := (r.toList.map (·.2)).foldl Decimal.addUpTo 0

end Revenue
end Watershed
