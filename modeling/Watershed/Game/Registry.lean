import Watershed.Decimal.Arith
import Watershed.Game.Basic

namespace Watershed

structure Blueprint where
  name : String
  kind : AssetKind
  level : Count
  usage : Count
  divisible : Bool
  nominal : Decimal
deriving DecidableEq, Repr

namespace Game

def addPlayer (g : Game) (p : Player) : Except GameFault Game :=
  if g.players.contains p.id then .error (.duplicatePlayer p.id)
  else .ok { g with players := g.players.put p }

def requireOwner (g : Game) : Option PlayerId → Except GameFault Unit
  | none => .ok ()
  | some id => do
    let _ ← g.findPlayer id
    .ok ()

def addParcel (g : Game) (p : Parcel) : Except GameFault Game :=
  if g.parcels.contains p.id then .error (.duplicateParcel p.id)
  else do
    g.requireOwner p.waterOwner
    g.requireOwner p.developer
    match p.waterOwner.bind g.players.find? with
    | none => .ok { g with parcels := g.parcels.put p }
    | some owner =>
      match owner.entitlement.add? p.rights with
      | none => .error .overflow
      | some entitlement =>
        let owner := { owner with entitlement := entitlement, rights := owner.rights.put p.id }
        .ok { g with players := g.players.put owner, parcels := g.parcels.put p }

def build (g : Game) (id : AssetId) (player : PlayerId) (parcel : ParcelId) (b : Blueprint) :
    Except GameFault Game := do
  let _ ← g.findPlayer player
  let site ← g.findParcel parcel
  if site.developer ≠ some player then .error (.notDeveloper player parcel)
  else if b.level = 0 ∨ b.kind.maxLevel < b.level.val then .error (.noSuchLevel b.kind b.level)
  else
    let asset : Asset :=
      ⟨id, b.name, b.kind, b.level, parcel, player, b.usage, 0, b.divisible, b.nominal⟩
    .ok { g with assets := g.assets.put asset }

def credit (g : Game) (player : PlayerId) (amount : Decimal) : Except GameFault Game := do
  let p ← g.findPlayer player
  match p.money.add? amount with
  | none => .error .overflow
  | some money => .ok { g with players := g.players.put { p with money := money } }

end Game
end Watershed
