import Watershed.Ledger.Entry

namespace Watershed

inductive SideName
  | source
  | target
deriving DecidableEq, Repr

inductive MissingPart
  | quantity
  | reason
  | entity
  | anonymity
deriving DecidableEq, Repr

inductive LedgerFault
  | zeroQuantity
  | missing (part : MissingPart)
  | wrongParty (kind : EntryKind) (side : SideName) (expected : Party) (actual : Option Party)
deriving DecidableEq, Repr

def SideName.word : SideName → String
  | .source => "from"
  | .target => "to"

def MissingPart.text : MissingPart → String
  | .quantity => "quantity"
  | .reason => "reason"
  | .entity => "entity id"
  | .anonymity => "anonymous side must not carry an entity id"

def LedgerFault.message : LedgerFault → String
  | .zeroQuantity => "ledger entry quantity must be non-zero"
  | .missing part => "missing required field: " ++ part.text
  | .wrongParty kind side expected actual =>
    "invalid entity for " ++ kind.name ++ " " ++ side.word ++ ": expected " ++ expected.name ++
      ", got " ++
      match actual with
      | none => "None"
      | some p => "Some(" ++ p.name ++ ")"

structure Draft where
  round : Count
  kind : EntryKind
  source : Side
  target : Side
  quantity : Option Count
  reason : Option String
  reference : Option Uuid
deriving DecidableEq, Repr

namespace Draft

def blank (round : Count) (kind : EntryKind) : Draft :=
  ⟨round, kind, .unset, .unset, none, none, none⟩

inductive Part
  | source (side : Side)
  | target (side : Side)
  | quantity (quantity : Count)
  | reason (reason : String)
  | reference (id : Uuid)
deriving DecidableEq, Repr

def fill (d : Draft) : Part → Draft
  | .source side => { d with source := side }
  | .target side => { d with target := side }
  | .quantity quantity => { d with quantity := some quantity }
  | .reason reason => { d with reason := some reason }
  | .reference id => { d with reference := some id }

def checkSide (kind : EntryKind) (name : SideName) (expected : Party) (side : Side) :
    Except LedgerFault Unit :=
  if side.party ≠ some expected then .error (.wrongParty kind name expected side.party)
  else if expected.Holds then
    if side.entity.isSome then .ok () else .error (.missing .entity)
  else if side.entity.isSome then .error (.missing .anonymity)
  else .ok ()

def toEntry (d : Draft) : Except LedgerFault Entry := do
  match d.quantity with
  | none => .error (.missing .quantity)
  | some quantity =>
    match d.reason with
    | none => .error (.missing .reason)
    | some reason =>
      if quantity = 0 then .error .zeroQuantity
      else
        checkSide d.kind .source d.kind.source d.source
        checkSide d.kind .target d.kind.target d.target
        .ok ⟨d.round, d.kind, d.source, d.target, quantity, reason, d.reference⟩

end Draft

namespace Entry

def rainfall (round quantity : Count) (parcel : ParcelId) : Entry :=
  ⟨round, .rainfall, .world, .parcel parcel, quantity, "RAINFALL", none⟩

def allocate (round quantity : Count) (parcel : ParcelId) (asset : AssetId) (player : PlayerId) :
    Entry :=
  ⟨round, .allocate, .parcel parcel, .asset asset, quantity, "ALLOCATE", some player.uuid⟩

def giveBack (round quantity : Count) (asset : AssetId) (parcel : ParcelId) (player : PlayerId) :
    Entry :=
  ⟨round, .giveBack, .asset asset, .parcel parcel, quantity, "GIVE_BACK", some player.uuid⟩

def forfeit (round quantity : Count) (asset : AssetId) (player : PlayerId) : Entry :=
  ⟨round, .forfeit, .asset asset, .void, quantity, "FORFEIT", some player.uuid⟩

def evaporate (round quantity : Count) (parcel : ParcelId) : Entry :=
  ⟨round, .evaporate, .parcel parcel, .void, quantity, "EVAPORATE", none⟩

def consume (round quantity : Count) (asset : AssetId) : Entry :=
  ⟨round, .consume, .asset asset, .void, quantity, "CONSUME", none⟩

def toDraft (e : Entry) : Draft :=
  ⟨e.round, e.kind, e.source, e.target, some e.quantity, some e.reason, e.reference⟩

end Entry
end Watershed
