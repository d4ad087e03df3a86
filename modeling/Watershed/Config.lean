import Watershed.Board
import Watershed.Settings
import Watershed.Text.Blank

namespace Watershed

inductive RainfallKind
  | utopian
  | series
  | belowIdeal
deriving DecidableEq, Repr, Inhabited

inductive DistributorKind
  | fair
  | perParcel
  | tiered
  | playerOnly
deriving DecidableEq, Repr, Inhabited

inductive AllocatorKind
  | parcelOriented
deriving DecidableEq, Repr, Inhabited

inductive EconomyKind
  | series
deriving DecidableEq, Repr, Inhabited

def RainfallKind.all : List RainfallKind := [.utopian, .series, .belowIdeal]

def RainfallKind.word : RainfallKind → String
  | .utopian => "utopian"
  | .series => "series"
  | .belowIdeal => "random_below_ideal"

def DistributorKind.all : List DistributorKind := [.fair, .perParcel, .tiered, .playerOnly]

def DistributorKind.word : DistributorKind → String
  | .fair => "fair"
  | .perParcel => "simple_fair_per_parcel"
  | .tiered => "tiered"
  | .playerOnly => "simple_player_only"

def AllocatorKind.all : List AllocatorKind := [.parcelOriented]

def AllocatorKind.word : AllocatorKind → String
  | .parcelOriented => "parcel_oriented"

def EconomyKind.all : List EconomyKind := [.series]

def EconomyKind.word : EconomyKind → String
  | .series => "series"

structure GameSettings where
  name : String
  seed : Count
  maxRounds : Count
deriving DecidableEq, Repr

namespace GameSettings

def default : GameSettings := ⟨"WaterWars", ⟨42, by decide⟩, ⟨10, by decide⟩⟩

instance : Inhabited GameSettings := ⟨default⟩

def seedVariable : String := "WATERWARS_SEED"

def overrideSeed (g : GameSettings) (text : Option String) : GameSettings :=
  match text.bind fun t => Text.count? (Text.trim t.toList) with
  | some seed => { g with seed := seed }
  | none => g

end GameSettings

structure StrategyKinds where
  rainfall : RainfallKind
  distributor : DistributorKind
  allocator : AllocatorKind
  economy : EconomyKind
deriving DecidableEq, Repr, Inhabited

structure ParcelSpec where
  name : String
  zone : String
  position : Position
  rights : Option Count
  waterOwner : Option String
  developer : Option String
deriving DecidableEq, Repr

structure AssetSpec where
  name : String
  parcel : String
  owner : String
  kind : AssetKind
  level : Count
  usage : Count
  divisible : Bool
  nominal : Decimal
deriving DecidableEq, Repr

structure Scenario where
  players : List String
  parcels : List ParcelSpec
  assets : List AssetSpec
deriving DecidableEq, Repr, Inhabited

structure Config where
  game : GameSettings
  strategies : StrategyKinds
  water : WaterSettings
  economy : EconomySettings
  scenario : Scenario
deriving DecidableEq, Inhabited

end Watershed
