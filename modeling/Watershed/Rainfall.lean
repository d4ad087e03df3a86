import Watershed.Board
import Watershed.Decimal.Arith
import Watershed.Random.Stream
import Watershed.Settings

namespace Watershed

inductive Rainfall
  | utopian (perParcel : Option Count)
  | series (deviations : Option RatioSeries)
  | belowIdeal (perParcel : Option Count) (stream : Random.Stream)

inductive RainfallFault
  | config (fault : ConfigFault)
  | overflow (round : Count)
deriving DecidableEq, Repr

def RainfallFault.message : RainfallFault → String
  | .config fault => "configuration error: " ++ fault.message
  | .overflow round => "rainfall total overflowed for round " ++ round.text

namespace Rainfall

def name : Rainfall → String
  | .utopian _ => "utopian"
  | .series _ => "series"
  | .belowIdeal _ _ => "random_below_ideal"

def configure (s : WaterSettings) : Rainfall → Except ConfigFault Rainfall
  | .utopian _ => do
    let n ← WaterSettings.require WaterSettings.waterPerParcelKey s.waterPerParcel
    .ok (.utopian (some n))
  | .series _ => do
    let deviations ← s.rainfallSeries
    .ok (.series (some deviations))
  | .belowIdeal _ stream => do
    let n ← WaterSettings.require WaterSettings.idealWaterPerParcelKey s.idealWaterPerParcel
    .ok (.belowIdeal (some n) stream)

/-- A quarter of the parcels, rounded down, bounds how far the rain stays below its ideal. -/
def bounds? (perParcel parcels : Count) : Option (Count × Count) := do
  let ideal ← parcels.mul? perParcel
  let range ← (parcels.quot 4).mul? perParcel
  some (ideal, range)

def scaled? (total : Count) (ratio : Decimal) : Option Count := do
  let product ← (Decimal.ofCount total).mul? ratio
  product.ceil.toCount?

def orOverflow {α : Type} (round : Count) : Option α → Except RainfallFault α
  | some a => .ok a
  | none => .error (.overflow round)

def generate (round : Count) (b : Board) : Rainfall → Except RainfallFault (Count × Rainfall)
  | .utopian none => .error (.config (.notConfigured "utopian rainfall"))
  | .utopian (some n) => do
    let water ← orOverflow round (b.parcelCount.mul? n)
    .ok (water, .utopian (some n))
  | .series none => .error (.config (.notConfigured "series rainfall"))
  | .series (some deviations) => do
    let total ← orOverflow round b.totalEntitlement?
    let water ← orOverflow round (scaled? total (deviations.ratioFor round))
    .ok (water, .series (some deviations))
  | .belowIdeal none _ => .error (.config (.notConfigured "random below-ideal rainfall"))
  | .belowIdeal (some n) stream => do
    let (ideal, range) ← orOverflow round (bounds? n b.parcelCount)
    let (shortfall, stream) := stream.upTo range
    let water ← orOverflow round (ideal.sub? shortfall)
    .ok (water, .belowIdeal (some n) stream)

def rain (round : Count) (b : Board) : EStateM RainfallFault Rainfall Count := do
  match ← get with
  | .belowIdeal (some n) stream =>
    let (ideal, range) ← MonadExcept.ofExcept (orOverflow round (bounds? n b.parcelCount))
    let (shortfall, stream) := stream.upTo range
    set (Rainfall.belowIdeal (some n) stream)
    MonadExcept.ofExcept (orOverflow round (ideal.sub? shortfall))
  | r =>
    let (water, r) ← MonadExcept.ofExcept (r.generate round b)
    set r
    return water

def call (c : Count × Board) (r : Rainfall) : Except RainfallFault Count × Rainfall :=
  match (rain c.1 c.2).run r with
  | .ok water r => (.ok water, r)
  | .error e r => (.error e, r)

def answers : List (Count × Board) → Rainfall → List (Except RainfallFault Count)
  | [], _ => []
  | c :: calls, r => (r.call c).1 :: answers calls (r.call c).2

end Rainfall
end Watershed
