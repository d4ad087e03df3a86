import Watershed.Ident
import Watershed.Kinds

namespace Watershed

structure Side where
  party : Option Party
  entity : Option Uuid
deriving DecidableEq, Repr, Inhabited

namespace Side

def unset : Side := ⟨none, none⟩

def world : Side := ⟨some .world, none⟩

def void : Side := ⟨some .void, none⟩

def parcel (p : ParcelId) : Side := ⟨some .parcel, some p.uuid⟩

def asset (a : AssetId) : Side := ⟨some .asset, some a.uuid⟩

def holds (s : Side) : Bool :=
  match s.party with
  | some p => p.Holds
  | none => false

def Fits (s : Side) (expected : Party) : Prop :=
  s.party = some expected ∧ (s.entity.isSome ↔ expected.Holds)

end Side

structure Entry where
  round : Count
  kind : EntryKind
  source : Side
  target : Side
  quantity : Count
  reason : String
  reference : Option Uuid
deriving DecidableEq, Repr

namespace Entry

structure WellFormed (e : Entry) : Prop where
  positive : 0 < e.quantity.val
  source : e.source.Fits e.kind.source
  target : e.target.Fits e.kind.target

end Entry
end Watershed
