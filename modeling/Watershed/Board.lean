import Watershed.Decimal.Basic
import Watershed.Ident
import Watershed.Kinds

namespace Watershed

structure Coordinate where
  val : Int
  ge : -9223372036854775808 ≤ val
  lt : val < 9223372036854775808
deriving DecidableEq, Repr

namespace Coordinate

def ofInt? (n : Int) : Option Coordinate :=
  if h : -9223372036854775808 ≤ n ∧ n < 9223372036854775808 then some ⟨n, h.1, h.2⟩ else none

def zero : Coordinate := ⟨0, by decide, by decide⟩

instance : Inhabited Coordinate := ⟨zero⟩

def gap (a b : Coordinate) : Int := max (-9223372036854775808) (min (a.val - b.val) 9223372036854775807)

end Coordinate

structure Position where
  x : Coordinate
  y : Coordinate
deriving DecidableEq, Repr, Inhabited

structure Player where
  id : PlayerId
  name : String
  entitlement : Count
  water : Count
  rights : Roll ParcelId
  money : Decimal
deriving DecidableEq, Repr

instance : Keyed Player PlayerId := ⟨Player.id⟩

structure Parcel where
  id : ParcelId
  name : String
  zone : String
  position : Position
  rights : Count
  water : Count
  waterOwner : Option PlayerId
  developer : Option PlayerId
deriving DecidableEq, Repr

instance : Keyed Parcel ParcelId := ⟨Parcel.id⟩

structure Asset where
  id : AssetId
  name : String
  kind : AssetKind
  level : Count
  parcel : ParcelId
  owner : PlayerId
  usage : Count
  allocated : Count
  divisible : Bool
  nominal : Decimal
deriving DecidableEq, Repr

instance : Keyed Asset AssetId := ⟨Asset.id⟩

def Asset.FullyWatered (a : Asset) : Prop := a.usage ≤ a.allocated

instance (a : Asset) : Decidable a.FullyWatered := inferInstanceAs (Decidable (_ ≤ _))

structure Board where
  players : Roll Player
  parcels : Roll Parcel
deriving DecidableEq, Repr

namespace Board

def empty : Board := ⟨.empty, .empty⟩

def parcelCount (b : Board) : Count := Count.clamp b.parcels.size

def unowned (b : Board) : List Parcel := b.parcels.toList.filter (·.waterOwner.isNone)

def owned (b : Board) : List Parcel := b.parcels.toList.filter (·.waterOwner.isSome)

def demand (b : Board) : List Count :=
  b.players.toList.map (·.entitlement) ++ b.unowned.map (·.rights)

def totalEntitlement? (b : Board) : Option Count :=
  Count.ofNat? (Count.total b.demand)

end Board
end Watershed
