import Watershed.Allocation.Change
import Watershed.Game.Registry
import Watershed.Game.Trade
import Watershed.Game.Turnover

namespace Watershed

structure Scene where
  game : Game
  notices : List Notice

namespace Scene

variable {ε : Type}

def look : EStateM ε Scene Game := return (← get).game

def write (f : Game → Game) : EStateM ε Scene Unit := modify fun s => { s with game := f s.game }

def announce (notices : List Notice) : EStateM ε Scene Unit :=
  modify fun s => { s with notices := s.notices ++ notices }

end Scene

namespace Game

open Scene

def recordStep (e : Entry) : EStateM GameFault Scene Unit := do
  let (_, ledger) ← MonadExcept.ofExcept (((← look).ledger.record e.toDraft).mapError .ledger)
  write fun g => { g with ledger := ledger }

def resetSteps : EStateM GameFault Scene Reset := do
  let g ← look
  let entries ← MonadExcept.ofExcept (g.resetEntries.mapM fun e => e.toDraft.toEntry.mapError .ledger)
  write dryUp
  write fun g => { g with ledger := g.ledger.appendAll entries }
  announce (g.wetParcels.map (fun p => Notice.parcel p.id) ++
    g.wetAssets.map (fun a => Notice.asset a.id) ++ g.wetPlayers.map fun p => Notice.player p.id)
  return ⟨Count.sumUpTo (g.wetParcels.map (·.water)), Count.sumUpTo (g.wetAssets.map (·.allocated))⟩

def handOut (shares : Shares) (players : Roll Player) : Roll Player :=
  players.map (fun p => { p with water := shares.of p.id }) fun _ => rfl

def distributeSteps (distributor : Distributor) (water : Count) :
    EStateM DistributionFault Scene Downpour := do
  let g ← look
  let d ← MonadExcept.ofExcept ((distributor.distribute g.toBoard water).mapError .distributor)
  write fun g => { g with parcels := d.parcels }
  announce (d.written.map Notice.parcel)
  EStateM.adaptExcept .game ((g.settlements d).forM recordStep)
  write fun g => { g with players := handOut d.shares g.players }
  let changed := g.players.toList.filter fun p => p.water ≠ d.shares.of p.id
  announce (changed.map fun p => Notice.player p.id)
  return ⟨water, Count.sumUpTo (g.players.toList.map fun p => d.shares.of p.id),
    Count.sumUpTo (d.parcels.toList.map (·.water))⟩

def rebalance (balances : Plan) (parcels : Roll Parcel) : Roll Parcel :=
  parcels.map (fun q =>
    match balances.find? q.id with
    | some (_, water) => { q with water := water }
    | none => q) fun q => by split <;> rfl

def changeSteps (asset : AssetId) (player : PlayerId) (n : Count) :
    EStateM AllocationFault Scene Change := do
  let g ← look
  match g.players.find? player, g.assets.find? asset with
  | none, _ => throw (.playerNotFound player)
  | _, none => throw (.assetNotFound asset)
  | some p, some a =>
    MonadExcept.ofExcept (Allocation.check a p n)
    if n = a.allocated then return .unchanged asset player a.allocated
    else
      let d ← MonadExcept.ofExcept
        (if a.allocated < n then Allocation.increase g a p n else Allocation.decrease g a p n)
      let entries ← MonadExcept.ofExcept (d.entries.mapM fun e => e.toDraft.toEntry.mapError .ledger)
      write fun g => { g with parcels := rebalance d.balances g.parcels }
      write fun g => { g with assets := g.assets.put { a with allocated := d.change.current } }
      write fun g => { g with players := g.players.put { p with water := d.playerWater } }
      write fun g => { g with ledger := g.ledger.appendAll entries }
      announce (.player p.id :: .asset a.id :: d.balances.keys.map Notice.parcel)
      return d.change

def transferSteps (id : ParcelId) (taker : Option PlayerId) : EStateM GameFault Scene Unit := do
  let g ← look
  let parcel ← MonadExcept.ofExcept (g.findParcel id)
  if parcel.waterOwner = taker then return ()
  else
    let sellers ← MonadExcept.ofExcept (eachOf (g.withoutRights · parcel) parcel.waterOwner)
    let buyers ← MonadExcept.ofExcept (eachOf (g.withRights · parcel) taker)
    (sellers ++ buyers).forM fun p => write fun g => { g with players := g.players.put p }
    write fun g => { g with parcels := g.parcels.put { parcel with waterOwner := taker } }
    announce (.parcel id :: (sellers ++ buyers).map fun p => Notice.player p.id)

def developmentSteps (id : ParcelId) (taker : Option PlayerId) : EStateM GameFault Scene Unit := do
  let g ← look
  let _ ← MonadExcept.ofExcept (eachOf g.findPlayer taker)
  let parcel ← MonadExcept.ofExcept (g.findParcel id)
  if parcel.developer = taker then return ()
  else
    write fun g => { g with parcels := g.parcels.put { parcel with developer := taker } }
    announce [.parcel id]

def checkPayment (g : Game) (x : PlayerId × Decimal) : Except GameFault Unit := do
  let p ← g.findPlayer x.1
  match p.money.add? x.2 with
  | none => .error .overflow
  | some _ => .ok ()

def creditStep (x : PlayerId × Decimal) : EStateM GameFault Scene Unit := do
  let g ← MonadExcept.ofExcept ((← look).credit x.1 x.2)
  write fun _ => g

end Game
end Watershed
