import Watershed.Game.Basic

namespace Watershed.Game

def withoutRights (g : Game) (id : PlayerId) (p : Parcel) : Except GameFault Player := do
  let player ← g.findPlayer id
  match player.entitlement.sub? p.rights with
  | none => .error .overflow
  | some entitlement =>
    .ok { player with
      entitlement := entitlement
      water := player.water.subDownTo p.water
      rights := player.rights.erase p.id }

def withRights (g : Game) (id : PlayerId) (p : Parcel) : Except GameFault Player := do
  let player ← g.findPlayer id
  match player.entitlement.add? p.rights, player.water.add? p.water with
  | some entitlement, some water =>
    .ok { player with
      entitlement := entitlement
      water := water
      rights := player.rights.put p.id }
  | _, _ => .error .overflow

def eachOf {α : Type} (f : PlayerId → Except GameFault α) : Option PlayerId → Except GameFault (List α)
  | none => .ok []
  | some id => (f id).map ([·])

def transferWater (g : Game) (id : ParcelId) (taker : Option PlayerId) :
    Except GameFault (Move Unit) := do
  let parcel ← g.findParcel id
  if parcel.waterOwner = taker then .ok ⟨g, [], ()⟩
  else
    let sellers ← eachOf (g.withoutRights · parcel) parcel.waterOwner
    let buyers ← eachOf (g.withRights · parcel) taker
    .ok {
      game :=
        { g with
          players := (sellers ++ buyers).foldl Roll.put g.players
          parcels := g.parcels.put { parcel with waterOwner := taker } }
      notices := .parcel id :: (sellers ++ buyers).map fun p => Notice.player p.id
      result := () }

def transferDevelopment (g : Game) (id : ParcelId) (taker : Option PlayerId) :
    Except GameFault (Move Unit) := do
  let _ ← eachOf g.findPlayer taker
  let parcel ← g.findParcel id
  if parcel.developer = taker then .ok ⟨g, [], ()⟩
  else
    .ok ⟨{ g with parcels := g.parcels.put { parcel with developer := taker } }, [.parcel id], ()⟩

end Watershed.Game
