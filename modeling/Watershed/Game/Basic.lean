import Watershed.Board
import Watershed.Ledger.Audit

namespace Watershed

structure Game extends Board where
  round : Count
  assets : Roll Asset
  ledger : Ledger
deriving DecidableEq

inductive Notice
  | player (id : PlayerId)
  | parcel (id : ParcelId)
  | asset (id : AssetId)
deriving DecidableEq, Repr

structure Recording where
  changes : List Notice
deriving DecidableEq, Repr

namespace Recording

def empty : Recording := ⟨[]⟩

def trigger (r : Recording) (n : Notice) : Recording := ⟨r.changes ++ [n]⟩

def triggerAll (r : Recording) (l : List Notice) : Recording := l.foldl trigger r

def contains (r : Recording) (n : Notice) : Bool := r.changes.contains n

def count (r : Recording) (n : Notice) : Nat := r.changes.count n

def clear (_ : Recording) : Recording := empty

end Recording

structure Move (α : Type) where
  game : Game
  notices : List Notice
  result : α
deriving DecidableEq

inductive GameFault
  | duplicatePlayer (id : PlayerId)
  | duplicateParcel (id : ParcelId)
  | playerNotFound (id : PlayerId)
  | parcelNotFound (id : ParcelId)
  | assetNotFound (id : AssetId)
  | notDeveloper (player : PlayerId) (parcel : ParcelId)
  | noSuchLevel (kind : AssetKind) (level : Count)
  | overflow
  | ledger (fault : LedgerFault)
deriving DecidableEq, Repr

def GameFault.message (naming : Naming) : GameFault → String
  | .duplicatePlayer id => "duplicate player id: " ++ naming id.uuid
  | .duplicateParcel id => "duplicate parcel id: " ++ naming id.uuid
  | .playerNotFound id => "player not found: " ++ naming id.uuid
  | .parcelNotFound id => "parcel not found: " ++ naming id.uuid
  | .assetNotFound id => "asset not found: " ++ naming id.uuid
  | .notDeveloper player parcel =>
    "player " ++ naming player.uuid ++ " does not own the development rights of parcel " ++
      naming parcel.uuid
  | .noSuchLevel kind level => kind.name ++ " has no level " ++ level.text
  | .overflow => "arithmetic overflow in game state calculation"
  | .ledger fault => "ledger error: " ++ fault.message

namespace Game

def empty : Game := ⟨.empty, 0, .empty, .empty⟩

instance : Inhabited Game := ⟨empty⟩

def setRound (g : Game) (round : Count) : Game := { g with round := round }

def assetsOf (g : Game) (p : PlayerId) : List Asset := g.assets.toList.filter (·.owner = p)

def held (g : Game) : Nat :=
  Count.wideSum (g.parcels.toList.map (·.water) ++ g.assets.toList.map (·.allocated))

def findPlayer (g : Game) (id : PlayerId) : Except GameFault Player :=
  match g.players.find? id with
  | some p => .ok p
  | none => .error (.playerNotFound id)

def findParcel (g : Game) (id : ParcelId) : Except GameFault Parcel :=
  match g.parcels.find? id with
  | some p => .ok p
  | none => .error (.parcelNotFound id)

def recordAll (g : Game) (entries : List Entry) : Except GameFault Ledger :=
  (g.ledger.recordAll entries).mapError .ledger

end Game
end Watershed
