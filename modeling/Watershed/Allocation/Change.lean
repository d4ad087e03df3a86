import Watershed.Allocation.Draw
import Watershed.Game.Basic

namespace Watershed

inductive AllocationFault
  | playerNotFound (id : PlayerId)
  | assetNotFound (id : AssetId)
  | notOwner (player : PlayerId) (asset : AssetId)
  | negative (requested : Int)
  | aboveUsage (asset : AssetId) (requested usage : Count)
  | indivisible (asset : AssetId) (requested usage : Count)
  | insufficient (player : PlayerId) (required available : Count)
  | exhausted (player : PlayerId) (shortfall : Count)
  | overflow
  | ledger (fault : LedgerFault)
  | game (fault : GameFault)
deriving DecidableEq, Repr

def AllocationFault.message (naming : Naming) : AllocationFault → String
  | .playerNotFound id => "player not found: " ++ naming id.uuid
  | .assetNotFound id => "asset not found: " ++ naming id.uuid
  | .notOwner player asset =>
    "player " ++ naming player.uuid ++ " does not own asset " ++ naming asset.uuid
  | .negative requested =>
    "allocation must not be negative (requested " ++ toString requested ++ ")"
  | .aboveUsage asset requested usage =>
    "asset " ++ naming asset.uuid ++ " uses at most " ++ usage.text ++ " units, requested " ++
      requested.text
  | .indivisible asset requested usage =>
    "asset " ++ naming asset.uuid ++ " is all-or-nothing: requested " ++ requested.text ++
      ", usage " ++ usage.text
  | .insufficient player required available =>
    "player " ++ naming player.uuid ++ " needs " ++ required.text ++ " water but has " ++
      available.text
  | .exhausted player shortfall =>
    "parcels of player " ++ naming player.uuid ++ " are short " ++ shortfall.text ++ " units"
  | .overflow => "arithmetic overflow in allocation"
  | .ledger fault => "ledger error: " ++ fault.message
  | .game fault => fault.message naming

structure Change where
  asset : AssetId
  player : PlayerId
  previous : Count
  current : Count
  drawn : List (ParcelId × Count)
  returned : List (ParcelId × Count)
  lost : Count
deriving DecidableEq, Repr

namespace Change

def unchanged (asset : AssetId) (player : PlayerId) (allocated : Count) : Change :=
  ⟨asset, player, allocated, allocated, [], [], 0⟩

def isNoop (c : Change) : Bool := c.previous = c.current

def totalDrawn (c : Change) : Count := Count.sumUpTo (c.drawn.map (·.2))

def totalReturned (c : Change) : Count := Count.sumUpTo (c.returned.map (·.2))

end Change

namespace Allocation

def requested (n : Int) : Except AllocationFault Count :=
  match n with
  | .ofNat n => .ok (Count.clamp n)
  | .negSucc n => .error (.negative (.negSucc n))

structure Proposal where
  change : Change
  balances : Plan
  playerWater : Count
  entries : List Entry

def ownedWater (g : Game) (p : Player) : Plan :=
  .ofList ((p.rights.toList.filterMap g.parcels.find?).filterMap fun parcel =>
    if parcel.waterOwner = some p.id then some (parcel.id, parcel.water) else none)

def check (a : Asset) (p : Player) (n : Count) : Except AllocationFault Unit :=
  if a.owner ≠ p.id then .error (.notOwner p.id a.id)
  else if a.usage < n then .error (.aboveUsage a.id n a.usage)
  else if a.divisible = false ∧ n ≠ 0 ∧ n ≠ a.usage then .error (.indivisible a.id n a.usage)
  else .ok ()

def increase (g : Game) (a : Asset) (p : Player) (n : Count) : Except AllocationFault Proposal := do
  let required := n.subDownTo a.allocated
  if p.water < required then .error (.insufficient p.id required p.water)
  else
    let owned := ownedWater g p
    let drawn ← (draw owned a.parcel required).mapError (.exhausted p.id)
    .ok {
      change := { Change.unchanged a.id p.id a.allocated with current := n, drawn := drawn }
      balances := .ofList (drawn.map fun x => (x.1, (owned.on x.1).subDownTo x.2))
      playerWater := p.water.subDownTo required
      entries := drawn.map fun x => Entry.allocate g.round x.2 x.1 a.id p.id }

def refill? (owned : Plan) (targets : List (ParcelId × Count)) : Option Plan :=
  (targets.mapM fun x => ((owned.on x.1).add? x.2).map fun n => (x.1, n)).map Roll.ofList

def decrease (g : Game) (a : Asset) (p : Player) (n : Count) : Except AllocationFault Proposal :=
  let surplus := a.allocated.subDownTo n
  let owned := ownedWater g p
  let targets := giveBack owned a.parcel surplus
  let change := { Change.unchanged a.id p.id a.allocated with current := n }
  if targets = [] then
    .ok ⟨{ change with lost := surplus }, .empty, p.water, [Entry.forfeit g.round surplus a.id p.id]⟩
  else
    match refill? owned targets, p.water.add? surplus with
    | some balances, some water =>
      .ok {
        change := { change with returned := targets }
        balances := balances
        playerWater := water
        entries := targets.map fun x => Entry.giveBack g.round x.2 a.id x.1 p.id }
    | _, _ => .error .overflow

def commit (g : Game) (a : Asset) (p : Player) (d : Proposal) : Except AllocationFault (Move Change) := do
  let ledger ← (g.ledger.recordAll d.entries).mapError .ledger
  .ok {
    game :=
      { g with
        players := g.players.put { p with water := d.playerWater }
        parcels := g.parcels.map (fun parcel =>
          match d.balances.find? parcel.id with
          | some (_, water) => { parcel with water := water }
          | none => parcel) (fun parcel => by split <;> rfl)
        assets := g.assets.put { a with allocated := d.change.current }
        ledger := ledger }
    notices := .player p.id :: .asset a.id :: d.balances.keys.map Notice.parcel
    result := d.change }

end Allocation

namespace Game

def changeAllocation (g : Game) (asset : AssetId) (player : PlayerId) (n : Count) :
    Except AllocationFault (Move Change) :=
  match g.players.find? player, g.assets.find? asset with
  | none, _ => .error (.playerNotFound player)
  | _, none => .error (.assetNotFound asset)
  | some p, some a => do
    Allocation.check a p n
    if n = a.allocated then .ok ⟨g, [], .unchanged asset player a.allocated⟩
    else
      let proposal ←
        if a.allocated < n then Allocation.increase g a p n else Allocation.decrease g a p n
      Allocation.commit g a p proposal

end Game
end Watershed
