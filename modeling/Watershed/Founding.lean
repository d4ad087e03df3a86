import Watershed.Config
import Watershed.Game.Registry

namespace Watershed

inductive NamedKind
  | player
  | parcel
  | asset
deriving DecidableEq, Repr

def NamedKind.word : NamedKind → String
  | .player => "player"
  | .parcel => "parcel"
  | .asset => "asset"

inductive ScenarioFault
  | config (fault : ConfigFault)
  | duplicateName (kind : NamedKind) (name : String)
  | unknownName (kind : NamedKind) (name : String)
  | game (fault : GameFault)
deriving DecidableEq, Repr

def ScenarioFault.message (naming : Naming) : ScenarioFault → String
  | .config fault => "entitlement configuration: " ++ fault.message
  | .duplicateName kind name => "duplicate " ++ kind.word ++ " name: " ++ name
  | .unknownName kind name => "unknown " ++ kind.word ++ ": " ++ name
  | .game fault => fault.message naming

structure Roster where
  players : Roll (String × PlayerId)
  parcels : Roll (String × ParcelId)
  assets : Roll (String × AssetId)
deriving DecidableEq

structure Founding where
  game : Game
  roster : Roster
  used : Nat

namespace Founding

def start : Founding := ⟨.empty, ⟨.empty, .empty, .empty⟩, 0⟩

def findPlayer (f : Founding) (name : String) : Except ScenarioFault PlayerId :=
  match f.roster.players.find? name with
  | some (_, id) => .ok id
  | none => .error (.unknownName .player name)

def findOwner (f : Founding) : Option String → Except ScenarioFault (Option PlayerId)
  | none => .ok none
  | some name => (f.findPlayer name).map some

def findParcel (f : Founding) (name : String) : Except ScenarioFault ParcelId :=
  match f.roster.parcels.find? name with
  | some (_, id) => .ok id
  | none => .error (.unknownName .parcel name)

def enterPlayer (fresh : Nat → Uuid) (f : Founding) (name : String) :
    Except ScenarioFault Founding :=
  if f.roster.players.contains name then .error (.duplicateName .player name)
  else do
    let id : PlayerId := ⟨fresh f.used⟩
    let game ← (f.game.addPlayer ⟨id, name, 0, 0, .empty, 0⟩).mapError .game
    .ok ⟨game, { f.roster with players := f.roster.players.put (name, id) }, f.used + 1⟩

def rightsOf (entitlements : Option Entitlements) (p : ParcelSpec) : Count :=
  match p.rights, entitlements with
  | some rights, _ => rights
  | none, some e => e.forZone p.zone
  | none, none => 0

def enterParcel (fresh : Nat → Uuid) (entitlements : Option Entitlements) (f : Founding)
    (p : ParcelSpec) : Except ScenarioFault Founding :=
  if f.roster.parcels.contains p.name then .error (.duplicateName .parcel p.name)
  else do
    let id : ParcelId := ⟨fresh f.used⟩
    let waterOwner ← f.findOwner p.waterOwner
    let developer ← f.findOwner p.developer
    let parcel : Parcel :=
      ⟨id, p.name, p.zone, p.position, rightsOf entitlements p, 0, waterOwner, developer⟩
    let game ← (f.game.addParcel parcel).mapError .game
    .ok ⟨game, { f.roster with parcels := f.roster.parcels.put (p.name, id) }, f.used + 1⟩

def enterAsset (fresh : Nat → Uuid) (f : Founding) (a : AssetSpec) :
    Except ScenarioFault Founding :=
  if f.roster.assets.contains a.name then .error (.duplicateName .asset a.name)
  else do
    let id : AssetId := ⟨fresh f.used⟩
    let owner ← f.findPlayer a.owner
    let parcel ← f.findParcel a.parcel
    let blueprint : Blueprint := ⟨a.name, a.kind, a.level, a.usage, a.divisible, a.nominal⟩
    let game ← (f.game.build id owner parcel blueprint).mapError .game
    .ok ⟨game, { f.roster with assets := f.roster.assets.put (a.name, id) }, f.used + 1⟩

def entitlementsFor (s : Scenario) (water : WaterSettings) :
    Except ScenarioFault (Option Entitlements) :=
  if s.parcels.any (·.rights.isNone) then
    ((Entitlements.ofSettings water).map some).mapError .config
  else .ok none

end Founding

def Scenario.found (fresh : Nat → Uuid) (s : Scenario) (water : WaterSettings) :
    Except ScenarioFault Founding := do
  let f ← s.players.foldlM (Founding.enterPlayer fresh) .start
  let entitlements ← Founding.entitlementsFor s water
  let f ← s.parcels.foldlM (Founding.enterParcel fresh entitlements) f
  s.assets.foldlM (Founding.enterAsset fresh) f

end Watershed
