import Watershed.Document.Form
import Watershed.Instant
import Watershed.Ledger.Entry

namespace Watershed

abbrev Labelling := Uuid → Datum

namespace Datum

def uuid (u : Uuid) : Datum := text u.text

def decimal (d : Decimal) : Datum := text d.text

def option {α : Type} (write : α → Datum) : Option α → Datum
  | some a => write a
  | none => null

def roll {κ ν : Type} [Key κ] (writeKey : κ → String) (write : ν → Datum) (r : Roll (κ × ν)) :
    Datum :=
  named (r.toList.map fun x => (writeKey x.1, write x.2))

end Datum

def AssetKind.toDatum (k : AssetKind) : Datum := .text k.word

def AssetKind.ofDatum? : Datum → Option AssetKind := Datum.word? all word

def Phase.toDatum (p : Phase) : Datum := .text p.name

def Phase.ofDatum? : Datum → Option Phase := Datum.word? all name

def EntryKind.toDatum (k : EntryKind) : Datum := .text k.name

def EntryKind.ofDatum? : Datum → Option EntryKind := Datum.word? all name

def Party.toDatum (p : Party) : Datum := .text p.name

def Party.ofDatum? : Datum → Option Party := Datum.word? all name

namespace Position

def toDatum (p : Position) : Datum := .named [("x", .int p.x.val), ("y", .int p.y.val)]

def ofDatum? (d : Datum) : Option Position := do
  let f ← Form.ofDatum? ["x", "y"] d
  some ⟨← f.require "x" Datum.coordinate?, ← f.require "y" Datum.coordinate?⟩

end Position

def PlayerId.ofDatum? (d : Datum) : Option PlayerId := d.uuid?.map PlayerId.mk

def ParcelId.ofDatum? (d : Datum) : Option ParcelId := d.uuid?.map ParcelId.mk

def AssetId.ofDatum? (d : Datum) : Option AssetId := d.uuid?.map AssetId.mk

def EntryId.ofDatum? (d : Datum) : Option EntryId := d.uuid?.map EntryId.mk

namespace Player

def toDatum (label : Labelling) (p : Player) : Datum :=
  .named [
    ("id", label p.id.uuid),
    ("name", .text p.name),
    ("water_entitlement", .count p.entitlement),
    ("water", .count p.water),
    ("water_rights_owned", .list (p.rights.toList.map fun id => label id.uuid)),
    ("money", .decimal p.money)]

def ofDatum? (d : Datum) : Option Player := do
  let f ← Form.ofDatum?
    ["id", "name", "water_entitlement", "water", "water_rights_owned", "money"] d
  let id ← f.require "id" PlayerId.ofDatum?
  let name ← f.require "name" Datum.text?
  let entitlement ← f.require "water_entitlement" Datum.count?
  let water ← f.require "water" Datum.count?
  let rights ← f.require "water_rights_owned" (Datum.list? ParcelId.ofDatum?)
  let money ← f.require "money" Datum.decimal?
  some ⟨id, name, entitlement, water, .ofList rights, money⟩

end Player

namespace Parcel

def toDatum (label : Labelling) (p : Parcel) : Datum :=
  .named [
    ("id", label p.id.uuid),
    ("name", .text p.name),
    ("zone", .text p.zone),
    ("position", p.position.toDatum),
    ("initial_water_rights", .count p.rights),
    ("water_available", .count p.water),
    ("water_rights_owner", .option (fun o => label o.uuid) p.waterOwner),
    ("development_rights_owner", .option (fun o => label o.uuid) p.developer)]

def ofDatum? (d : Datum) : Option Parcel := do
  let f ← Form.ofDatum?
    ["id", "name", "zone", "position", "initial_water_rights", "water_available",
      "water_rights_owner", "development_rights_owner"] d
  let id ← f.require "id" ParcelId.ofDatum?
  let name ← f.require "name" Datum.text?
  let zone ← f.require "zone" Datum.text?
  let position ← f.require "position" Position.ofDatum?
  let rights ← f.require "initial_water_rights" Datum.count?
  let water ← f.require "water_available" Datum.count?
  let waterOwner ← f.optional "water_rights_owner" PlayerId.ofDatum?
  let developer ← f.optional "development_rights_owner" PlayerId.ofDatum?
  some ⟨id, name, zone, position, rights, water, waterOwner, developer⟩

end Parcel

namespace Asset

def toDatum (label : Labelling) (a : Asset) : Datum :=
  .named [
    ("id", label a.id.uuid),
    ("name", .text a.name),
    ("asset_type", a.kind.toDatum),
    ("level", .count a.level),
    ("parcel_id", label a.parcel.uuid),
    ("owner", label a.owner.uuid),
    ("water_usage", .count a.usage),
    ("water_allocated", .count a.allocated),
    ("can_partially_allocate_water", .bool a.divisible),
    ("nominal_revenue", .decimal a.nominal)]

def ofDatum? (d : Datum) : Option Asset := do
  let f ← Form.ofDatum?
    ["id", "name", "asset_type", "level", "parcel_id", "owner", "water_usage", "water_allocated",
      "can_partially_allocate_water", "nominal_revenue"] d
  let id ← f.require "id" AssetId.ofDatum?
  let name ← f.require "name" Datum.text?
  let kind ← f.require "asset_type" AssetKind.ofDatum?
  let level ← f.require "level" Datum.count?
  let parcel ← f.require "parcel_id" ParcelId.ofDatum?
  let owner ← f.require "owner" PlayerId.ofDatum?
  let usage ← f.require "water_usage" Datum.count?
  let allocated ← f.require "water_allocated" Datum.count?
  let divisible ← f.require "can_partially_allocate_water" Datum.bool?
  let nominal ← f.require "nominal_revenue" Datum.decimal?
  some ⟨id, name, kind, level, parcel, owner, usage, allocated, divisible, nominal⟩

end Asset

structure StampedEntry where
  id : EntryId
  entry : Entry
  time : Instant
deriving DecidableEq, Repr

namespace StampedEntry

def toDatum (label : Labelling) (s : StampedEntry) : Datum :=
  .named [
    ("id", label s.id.uuid),
    ("round", .count s.entry.round),
    ("entry_type", s.entry.kind.toDatum),
    ("from_entity", .option label s.entry.source.entity),
    ("from_entity_type", .option Party.toDatum s.entry.source.party),
    ("to_entity", .option label s.entry.target.entity),
    ("to_entity_type", .option Party.toDatum s.entry.target.party),
    ("quantity", .count s.entry.quantity),
    ("reason", .text s.entry.reason),
    ("reference_id", .option label s.entry.reference),
    ("created_at", .text s.time.text)]

def ofDatum? (d : Datum) : Option StampedEntry := do
  let f ← Form.ofDatum?
    ["id", "round", "entry_type", "from_entity", "from_entity_type", "to_entity", "to_entity_type",
      "quantity", "reason", "reference_id", "created_at"] d
  let id ← f.require "id" EntryId.ofDatum?
  let round ← f.require "round" Datum.count?
  let kind ← f.require "entry_type" EntryKind.ofDatum?
  let source ← f.optional "from_entity" Datum.uuid?
  let sourceParty ← f.optional "from_entity_type" Party.ofDatum?
  let target ← f.optional "to_entity" Datum.uuid?
  let targetParty ← f.optional "to_entity_type" Party.ofDatum?
  let quantity ← f.require "quantity" Datum.count?
  let reason ← f.require "reason" Datum.text?
  let reference ← f.optional "reference_id" Datum.uuid?
  let time ← f.require "created_at" fun d => d.text?.bind fun t => Instant.read? t.toList
  some ⟨id, ⟨round, kind, ⟨sourceParty, source⟩, ⟨targetParty, target⟩, quantity, reason, reference⟩,
    time⟩

end StampedEntry
end Watershed
