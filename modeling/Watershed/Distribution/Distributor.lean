import Watershed.Distribution.Proportional
import Watershed.Distribution.Tiered
import Watershed.Settings

namespace Watershed

inductive Distributor
  | fair
  | perParcel
  | playerOnly
  | tiered (cap : Option Count)
deriving DecidableEq, Repr

inductive DistributorFault
  | config (fault : ConfigFault)
  | overflow (distributor : String)
deriving DecidableEq, Repr

namespace Distributor

def name : Distributor → String
  | .fair => "fair"
  | .perParcel => "simple_fair_per_parcel"
  | .playerOnly => "simple_player_only"
  | .tiered _ => "tiered"

def configure (s : WaterSettings) : Distributor → Except ConfigFault Distributor
  | .tiered _ => do
    let cap ←
      WaterSettings.require WaterSettings.parcelWaterEntitlementKey s.parcelWaterEntitlement
    .ok (.tiered (some cap))
  | d => .ok d

def writesParcels : Distributor → Bool
  | .playerOnly => false
  | _ => true

def distribute (b : Board) (water : Count) (d : Distributor) :
    Except DistributorFault Distribution :=
  let reckoned :=
    match d with
    | .fair => Distribution.Fair.distribute? b water
    | .perParcel => Distribution.PerParcel.distribute? b water
    | .playerOnly => Distribution.PlayerOnly.distribute? b water
    | .tiered (some cap) => Distribution.Tiered.distribute? cap b water
    | .tiered none => none
  match d, reckoned with
  | .tiered none, _ => .error (.config (.notConfigured "tiered distributor"))
  | _, some r => .ok r
  | d, none => .error (.overflow d.name)

end Distributor
end Watershed
