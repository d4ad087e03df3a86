import Watershed.Config
import Watershed.Document.Records
import Watershed.Document.Yaml.Reader

namespace Watershed

namespace WaterSettings

def toDatum (s : WaterSettings) : Datum :=
  .named [
    ("water_per_parcel", .option .count s.waterPerParcel),
    ("ideal_water_per_parcel", .option .count s.idealWaterPerParcel),
    ("rainfall_deviations", .option .text s.rainfallDeviations),
    ("parcel_water_entitlement", .option .count s.parcelWaterEntitlement),
    ("zone_water_entitlements", .roll id .count s.zoneWaterEntitlements)]

def ofDatum? (d : Datum) : Option WaterSettings := do
  let f ← Form.ofDatum?
    ["water_per_parcel", "ideal_water_per_parcel", "rainfall_deviations",
      "parcel_water_entitlement", "zone_water_entitlements"] d
  let perParcel ← f.withDefault "water_per_parcel" none (Datum.option? Datum.count?)
  let ideal ← f.withDefault "ideal_water_per_parcel" none (Datum.option? Datum.count?)
  let deviations ← f.withDefault "rainfall_deviations" none (Datum.option? Datum.text?)
  let entitlement ← f.withDefault "parcel_water_entitlement" none (Datum.option? Datum.count?)
  let zones ← f.withDefault "zone_water_entitlements" .empty (Datum.roll? Scalar.text? Datum.count?)
  some ⟨perParcel, ideal, deviations, entitlement, zones⟩

end WaterSettings

namespace EconomySettings

def toDatum (s : EconomySettings) : Datum :=
  .named [("series", .roll AssetKind.word (.roll Count.text .text) s.series)]

def ofDatum? (d : Datum) : Option EconomySettings := do
  let f ← Form.ofDatum? ["series"] d
  let series ← f.withDefault "series" .empty
    (Datum.roll? (Scalar.word? AssetKind.all AssetKind.word)
      (Datum.roll? Scalar.count? Datum.text?))
  some ⟨series⟩

end EconomySettings

def RainfallKind.toDatum (k : RainfallKind) : Datum := .text k.word

def RainfallKind.ofDatum? : Datum → Option RainfallKind := Datum.word? all word

def DistributorKind.toDatum (k : DistributorKind) : Datum := .text k.word

def DistributorKind.ofDatum? : Datum → Option DistributorKind := Datum.word? all word

def AllocatorKind.toDatum (k : AllocatorKind) : Datum := .text k.word

def AllocatorKind.ofDatum? : Datum → Option AllocatorKind := Datum.word? all word

def EconomyKind.toDatum (k : EconomyKind) : Datum := .text k.word

def EconomyKind.ofDatum? : Datum → Option EconomyKind := Datum.word? all word

def GameSettings.ofDatum? (d : Datum) : Option GameSettings := do
  let f ← Form.ofDatum? ["name", "seed", "max_rounds"] d
  let name ← f.withDefault "name" default.name Datum.text?
  let seed ← f.withDefault "seed" default.seed Datum.count?
  let maxRounds ← f.withDefault "max_rounds" default.maxRounds Datum.count?
  some ⟨name, seed, maxRounds⟩

def GameSettings.toDatum (g : GameSettings) : Datum :=
  .named [("name", .text g.name), ("seed", .count g.seed), ("max_rounds", .count g.maxRounds)]

def StrategyKinds.toDatum (k : StrategyKinds) : Datum :=
  .list [k.rainfall.toDatum, k.distributor.toDatum, k.allocator.toDatum, k.economy.toDatum]

def StrategyKinds.ofDatum? (d : Datum) : Option StrategyKinds := do
  let f ← Form.ofDatum? ["rainfall", "distributor", "allocator", "economy"] d
  let rainfall ← f.withDefault "rainfall" default RainfallKind.ofDatum?
  let distributor ← f.withDefault "distributor" default DistributorKind.ofDatum?
  let allocator ← f.withDefault "allocator" default AllocatorKind.ofDatum?
  let economy ← f.withDefault "economy" default EconomyKind.ofDatum?
  some ⟨rainfall, distributor, allocator, economy⟩

namespace ParcelSpec

def standardZone : String := "default"

def ofDatum? (d : Datum) : Option ParcelSpec := do
  let f ← Form.ofDatum?
    ["name", "zone", "x", "y", "water_rights", "water_rights_owner", "development_rights_owner"] d
  let name ← f.require "name" Datum.text?
  let zone ← f.withDefault "zone" standardZone Datum.text?
  let x ← f.withDefault "x" .zero Datum.coordinate?
  let y ← f.withDefault "y" .zero Datum.coordinate?
  let rights ← f.withDefault "water_rights" none (Datum.option? Datum.count?)
  let waterOwner ← f.withDefault "water_rights_owner" none (Datum.option? Datum.text?)
  let developer ← f.withDefault "development_rights_owner" none (Datum.option? Datum.text?)
  some ⟨name, zone, ⟨x, y⟩, rights, waterOwner, developer⟩

def toDatum (p : ParcelSpec) : Datum :=
  .named [
    ("name", .text p.name),
    ("zone", .text p.zone),
    ("x", .int p.position.x.val),
    ("y", .int p.position.y.val),
    ("water_rights", .option .count p.rights),
    ("water_rights_owner", .option .text p.waterOwner),
    ("development_rights_owner", .option .text p.developer)]

end ParcelSpec

namespace AssetSpec

def ofDatum? (d : Datum) : Option AssetSpec := do
  let f ← Form.ofDatum?
    ["name", "parcel", "owner", "asset_type", "level", "water_usage",
      "can_partially_allocate_water", "nominal_revenue"] d
  let name ← f.require "name" Datum.text?
  let parcel ← f.require "parcel" Datum.text?
  let owner ← f.require "owner" Datum.text?
  let kind ← f.require "asset_type" AssetKind.ofDatum?
  let level ← f.withDefault "level" 1 Datum.count?
  let usage ← f.require "water_usage" Datum.count?
  let divisible ← f.withDefault "can_partially_allocate_water" false Datum.bool?
  let nominal ← f.require "nominal_revenue" Datum.decimal?
  some ⟨name, parcel, owner, kind, level, usage, divisible, nominal⟩

def toDatum (a : AssetSpec) : Datum :=
  .named [
    ("name", .text a.name),
    ("parcel", .text a.parcel),
    ("owner", .text a.owner),
    ("asset_type", a.kind.toDatum),
    ("level", .count a.level),
    ("water_usage", .count a.usage),
    ("can_partially_allocate_water", .bool a.divisible),
    ("nominal_revenue", .decimal a.nominal)]

end AssetSpec

def Scenario.ofDatum? (d : Datum) : Option Scenario := do
  let f ← Form.ofDatum? ["players", "parcels", "assets"] d
  let players ← f.withDefault "players" [] (Datum.list? Datum.text?)
  let parcels ← f.withDefault "parcels" [] (Datum.list? ParcelSpec.ofDatum?)
  let assets ← f.withDefault "assets" [] (Datum.list? AssetSpec.ofDatum?)
  some ⟨players, parcels, assets⟩

namespace Config

def ofDatum? (d : Datum) : Option Config := do
  let f ← Form.ofDatum? ["game", "strategies", "water", "economy", "scenario"] d
  let game ← f.withDefault "game" default GameSettings.ofDatum?
  let strategies ← f.withDefault "strategies" default StrategyKinds.ofDatum?
  let water ← f.withDefault "water" default WaterSettings.ofDatum?
  let economy ← f.withDefault "economy" default EconomySettings.ofDatum?
  let scenario ← f.withDefault "scenario" default Scenario.ofDatum?
  some ⟨game, strategies, water, economy, scenario⟩

def toDatum (c : Config) : Datum :=
  .named [
    ("game", c.game.toDatum),
    ("strategies", c.strategies.toDatum),
    ("water", c.water.toDatum),
    ("economy", c.economy.toDatum),
    ("players", .list (c.scenario.players.map .text)),
    ("parcels", .list (c.scenario.parcels.map ParcelSpec.toDatum)),
    ("assets", .list (c.scenario.assets.map AssetSpec.toDatum))]

def read (seed : Option String) (text : String) : Option Config := do
  let c ← ofDatum? (← Yaml.read text.toList)
  some { c with game := c.game.overrideSeed seed }

end Config

inductive FileFault
  | notFound
  | notText
  | notConfiguration
deriving DecidableEq, Repr

def FileFault.message : FileFault → String
  | .notFound => "failed to read config file: No such file or directory (os error 2)"
  | .notText => "failed to read config file: stream did not contain valid UTF-8"
  | .notConfiguration => "failed to parse config YAML"

def Config.ofFile (seed : Option String) : Option ByteArray → Except FileFault Config
  | none => .error .notFound
  | some bytes =>
    match String.fromUTF8? bytes with
    | none => .error .notText
    | some text =>
      match Config.read seed text with
      | some c => .ok c
      | none => .error .notConfiguration

end Watershed
