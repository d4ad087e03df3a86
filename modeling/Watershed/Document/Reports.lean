import Watershed.Document.Records
import Watershed.Season.Play

namespace Watershed

namespace Datum

def wide (n : Int) : Datum := text (toString n)

end Datum

def Notice.toDatum (label : Labelling) : Notice → Datum
  | .player id => .list [.text "player", label id.uuid]
  | .parcel id => .list [.text "parcel", label id.uuid]
  | .asset id => .list [.text "asset", label id.uuid]

def Game.standing (label : Labelling) (g : Game) : Datum :=
  .named [
    ("round", .count g.round),
    ("players", .list (g.players.toList.map fun p =>
      .named [
        ("id", label p.id.uuid),
        ("entitlement", .count p.entitlement),
        ("water", .count p.water),
        ("owned", .list (p.rights.toList.map fun id => label id.uuid)),
        ("money", .decimal p.money)])),
    ("parcels", .list (g.parcels.toList.map fun p =>
      .named [
        ("id", label p.id.uuid),
        ("rights", .count p.rights),
        ("water", .count p.water),
        ("water_owner", .option (fun o => label o.uuid) p.waterOwner),
        ("dev_owner", .option (fun o => label o.uuid) p.developer)])),
    ("assets", .list (g.assets.toList.map fun a =>
      .named [("id", label a.id.uuid), ("allocated", .count a.allocated)])),
    ("held", .wide g.held),
    ("ledger", .int g.ledger.entries.length)]

def Game.records (label : Labelling) (g : Game) : Datum :=
  .named [
    ("players", .list (g.players.toList.map (Player.toDatum label))),
    ("parcels", .list (g.parcels.toList.map (Parcel.toDatum label))),
    ("assets", .list (g.assets.toList.map (Asset.toDatum label)))]

def Roster.toDatum (label : Labelling) (r : Roster) : Datum :=
  .named [
    ("players", .roll id (fun p => label p.uuid) r.players),
    ("parcels", .roll id (fun p => label p.uuid) r.parcels),
    ("assets", .roll id (fun a => label a.uuid) r.assets)]

def Entry.toDatum (label : Labelling) (e : Entry) : Datum :=
  .named [
    ("round", .count e.round),
    ("type", e.kind.toDatum),
    ("from", .option label e.source.entity),
    ("from_type", .option Party.toDatum e.source.party),
    ("to", .option label e.target.entity),
    ("to_type", .option Party.toDatum e.target.party),
    ("quantity", .count e.quantity),
    ("reason", .text e.reason),
    ("reference", .option label e.reference)]

def Verdict.toDatum : Verdict → Datum
  | .balanced => .named [("balanced", .bool true)]
  | .anomaly a =>
    .named [
      ("balanced", .bool false),
      ("round", .count a.round),
      ("expected", .wide a.expected),
      ("actual", .wide a.actual),
      ("message", .text a.message)]

def Ledger.totalsDatum (l : Ledger) (round : Count) : Datum :=
  .named ((l.totals round).map fun x => (x.1.name, .count x.2))

def Change.toDatum (label : Labelling) (c : Change) : Datum :=
  let moves (l : List (ParcelId × Count)) : Datum :=
    .list (l.map fun x => .list [label x.1.uuid, .count x.2])
  .named [
    ("asset", label c.asset.uuid),
    ("player", label c.player.uuid),
    ("previous", .count c.previous),
    ("current", .count c.current),
    ("drawn", moves c.drawn),
    ("returned", moves c.returned),
    ("lost", .count c.lost),
    ("noop", .bool c.isNoop),
    ("total_drawn", .count c.totalDrawn),
    ("total_returned", .count c.totalReturned)]

def Reset.toDatum (r : Reset) : Datum :=
  .named [("evaporated", .count r.evaporated), ("consumed", .count r.consumed)]

def Downpour.toDatum (d : Downpour) : Datum :=
  .named [
    ("generated", .count d.generated),
    ("distributed", .count d.distributed),
    ("landed", .count d.landed)]

def Multipliers.toDatum (m : Multipliers) : Datum :=
  .named (AssetKind.all.map fun k => (k.word, .list ((m.row k).map .decimal)))

def Summary.toDatum (naming : Naming) (s : Summary) : Datum :=
  .named [
    ("round", .count s.round),
    ("generated", .count s.generated),
    ("distributed", .count s.distributed),
    ("rainfall", .count s.rainfall),
    ("evaporated", .count s.evaporated),
    ("consumed", .count s.consumed),
    ("forfeited", .count s.forfeited),
    ("allocated", .count s.allocated),
    ("revenue", .roll (fun p => naming p.uuid) .decimal s.revenue),
    ("total_revenue", .decimal s.totalRevenue)]

def RoundReport.toDatum (label : Labelling) (naming : Naming) (r : RoundReport) : Datum :=
  .named [
    ("reset", .list [.count r.reset.evaporated, .count r.reset.consumed]),
    ("outcome", r.downpour.toDatum),
    ("tallies", .list (r.tallies.map fun x =>
      .list [label x.1.uuid, .int x.2.accepted.toNat, .int x.2.rejected.toNat])),
    ("summary", r.summary.toDatum naming),
    ("state", r.closing.standing label)]

end Watershed
