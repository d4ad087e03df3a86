import Watershed.RatioSeries
import Watershed.Kinds

namespace Watershed

inductive ConfigFault
  | missingKey (key : String)
  | badSeries (key : String) (fault : RatioSeries.Fault)
  | badLevel (key : String)
  | dryAllocator (distributor allocator : String)
  | notConfigured (part : String)
deriving DecidableEq, Repr

namespace ConfigFault

def invalid (key reason : String) : String := "invalid value for " ++ key ++ ": " ++ reason

def message : ConfigFault → String
  | .missingKey key => "missing required configuration key: " ++ key
  | .badSeries key fault => invalid key fault.message
  | .badLevel key => invalid key "level must be between 1 and 3"
  | .dryAllocator distributor allocator =>
    invalid "strategies.distributor"
      (distributor ++ " puts no water on parcels, so the " ++ allocator ++
        " allocator has nothing to draw from")
  | .notConfigured part => part ++ " used before configuration was applied"

end ConfigFault

structure WaterSettings where
  waterPerParcel : Option Count
  idealWaterPerParcel : Option Count
  rainfallDeviations : Option String
  parcelWaterEntitlement : Option Count
  zoneWaterEntitlements : Roll (String × Count)
deriving DecidableEq, Repr

namespace WaterSettings

def default : WaterSettings := ⟨none, none, none, none, .empty⟩

instance : Inhabited WaterSettings := ⟨default⟩

def waterPerParcelKey : String := "water_per_parcel"
def idealWaterPerParcelKey : String := "ideal_water_per_parcel"
def rainfallDeviationsKey : String := "rainfall_deviations"
def parcelWaterEntitlementKey : String := "parcel_water_entitlement"

def require (key : String) : Option Count → Except ConfigFault Count
  | some value => .ok value
  | none => .error (.missingKey key)

end WaterSettings

def RatioSeries.readFor (key : String) (text : String) : Except ConfigFault RatioSeries :=
  (RatioSeries.read text.toList).mapError (.badSeries key)

def WaterSettings.rainfallSeries (s : WaterSettings) : Except ConfigFault RatioSeries :=
  match s.rainfallDeviations with
  | some text => RatioSeries.readFor WaterSettings.rainfallDeviationsKey text
  | none => .error (.missingKey WaterSettings.rainfallDeviationsKey)

structure Entitlements where
  standard : Count
  zones : Roll (String × Count)
deriving DecidableEq, Repr

namespace Entitlements

def ofSettings (s : WaterSettings) : Except ConfigFault Entitlements := do
  let standard ←
    WaterSettings.require WaterSettings.parcelWaterEntitlementKey s.parcelWaterEntitlement
  .ok ⟨standard, s.zoneWaterEntitlements⟩

def forZone (e : Entitlements) (zone : String) : Count :=
  match e.zones.find? zone with
  | some (_, rights) => rights
  | none => e.standard

end Entitlements

structure EconomySettings where
  series : Roll (AssetKind × Roll (Count × String))
deriving DecidableEq

def EconomySettings.default : EconomySettings := ⟨.empty⟩

instance : Inhabited EconomySettings := ⟨EconomySettings.default⟩

end Watershed
