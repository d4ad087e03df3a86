import Watershed.Distribution.Distributor
import Watershed.Game.Basic

namespace Watershed

structure Reset where
  evaporated : Count
  consumed : Count
deriving DecidableEq, Repr

structure Downpour where
  generated : Count
  distributed : Count
  landed : Count
deriving DecidableEq, Repr, Inhabited

inductive DistributionFault
  | distributor (fault : DistributorFault)
  | game (fault : GameFault)
deriving DecidableEq, Repr

def DistributorFault.message : DistributorFault → String
  | .config fault => "configuration error: " ++ fault.message
  | .overflow name => "arithmetic overflow in " ++ name ++ " distribution"

def DistributionFault.message (naming : Naming) : DistributionFault → String
  | .distributor fault => fault.message
  | .game fault => fault.message naming

namespace Game

def wetParcels (g : Game) : List Parcel := g.parcels.toList.filter fun p => 0 < p.water

def wetAssets (g : Game) : List Asset := g.assets.toList.filter fun a => 0 < a.allocated

def wetPlayers (g : Game) : List Player := g.players.toList.filter fun p => 0 < p.water

def dryUp (g : Game) : Game :=
  { g with
    players := g.players.map (fun p => { p with water := 0 }) fun _ => rfl
    parcels := g.parcels.map (fun p => { p with water := 0 }) fun _ => rfl
    assets := g.assets.map (fun a => { a with allocated := 0 }) fun _ => rfl }

def resetEntries (g : Game) : List Entry :=
  g.wetParcels.map (fun p => Entry.evaporate g.round p.water p.id) ++
    g.wetAssets.map fun a => Entry.consume g.round a.allocated a.id

def reset (g : Game) : Except GameFault (Move Reset) := do
  let ledger ← g.recordAll g.resetEntries
  .ok {
    game := { g.dryUp with ledger := ledger }
    notices :=
      g.wetParcels.map (fun p => Notice.parcel p.id) ++
        g.wetAssets.map (fun a => Notice.asset a.id) ++
        g.wetPlayers.map fun p => Notice.player p.id
    result :=
      ⟨Count.sumUpTo (g.wetParcels.map (·.water)), Count.sumUpTo (g.wetAssets.map (·.allocated))⟩ }

def settle (round before : Count) (p : Parcel) : List Entry :=
  if before < p.water then [Entry.rainfall round (p.water.subDownTo before) p.id]
  else if p.water < before then [Entry.evaporate round (before.subDownTo p.water) p.id]
  else []

def waterOn (g : Game) (id : ParcelId) : Count :=
  match g.parcels.find? id with
  | some p => p.water
  | none => 0

def settlements (g : Game) (d : Distribution) : List Entry :=
  d.parcels.toList.flatMap fun p => settle g.round (g.waterOn p.id) p

def distribute (g : Game) (distributor : Distributor) (water : Count) :
    Except DistributionFault (Move Downpour) := do
  let d ← (distributor.distribute g.toBoard water).mapError .distributor
  let ledger ← (g.recordAll (g.settlements d)).mapError .game
  let changed := g.players.toList.filter fun p => p.water ≠ d.shares.of p.id
  .ok {
    game :=
      { g with
        players := g.players.map (fun p => { p with water := d.shares.of p.id }) fun _ => rfl
        parcels := d.parcels
        ledger := ledger }
    notices := d.written.map Notice.parcel ++ changed.map fun p => Notice.player p.id
    result :=
      ⟨water, Count.sumUpTo (g.players.toList.map fun p => d.shares.of p.id),
        Count.sumUpTo (d.parcels.toList.map (·.water))⟩ }

end Game
end Watershed
