import Watershed.Document.Configuration
import Watershed.Proofs.Document.Form
import Watershed.Proofs.Document.Writing
import Watershed.Proofs.Instant.Text

namespace Watershed

open Datum (Faithful faithful_text faithful_bool faithful_count faithful_uuid faithful_coordinate
  faithful_word)

theorem PlayerId.faithful : Faithful (fun i : PlayerId => .uuid i.uuid) ofDatum? :=
  faithful_uuid.map fun _ => rfl

theorem ParcelId.faithful : Faithful (fun i : ParcelId => .uuid i.uuid) ofDatum? :=
  faithful_uuid.map fun _ => rfl

theorem AssetId.faithful : Faithful (fun i : AssetId => .uuid i.uuid) ofDatum? :=
  faithful_uuid.map fun _ => rfl

theorem EntryId.faithful : Faithful (fun i : EntryId => .uuid i.uuid) ofDatum? :=
  faithful_uuid.map fun _ => rfl

theorem AssetKind.faithful : Faithful toDatum ofDatum? :=
  faithful_word fun k => by cases k <;> rfl

theorem Phase.faithful : Faithful toDatum ofDatum? :=
  faithful_word fun p => by cases p <;> rfl

theorem EntryKind.faithful : Faithful toDatum ofDatum? :=
  faithful_word fun k => by cases k <;> rfl

theorem Party.faithful : Faithful toDatum ofDatum? :=
  faithful_word fun p => by cases p <;> rfl

theorem Datum.exact_decimal (d : Decimal) : Json.Exact (decimal d) := .text d.text

theorem Datum.decimal?_decimal (d : Decimal) : decimal? (decimal d) = some d.unsignZero := by
  simp only [decimal, text, decimal?, Decimal.read_text_unsignZero, Except.toOption]

theorem Position.faithful : Faithful toDatum ofDatum? where
  exact p := .named (by simp [faithful_coordinate.exact])
  present _ := rfl
  reads p := by
    rw [toDatum, ofDatum?, Form.ofDatum?_named]
    · simp [faithful_coordinate.reads]
    · decide
    · rfl

theorem Player.exact_toDatum (p : Player) : Json.Exact (p.toDatum .uuid) :=
  .named (by simp [faithful_uuid.exact, faithful_count.exact, faithful_text.exact,
    ParcelId.faithful.list.exact, Datum.exact_decimal])

theorem Player.ofDatum?_toDatum (p : Player) :
    ofDatum? (p.toDatum .uuid) = some { p with money := p.money.unsignZero } := by
  rw [toDatum, ofDatum?, Form.ofDatum?_named]
  · simp [PlayerId.faithful.reads, faithful_count.reads,
      faithful_text.reads, ParcelId.faithful.list.reads, Datum.decimal?_decimal, Roll.ofList_toList]
  · decide
  · rfl

theorem Parcel.faithful : Faithful (toDatum .uuid) ofDatum? where
  exact p := .named (by simp [faithful_uuid.exact, faithful_count.exact, faithful_text.exact,
    PlayerId.faithful.exact_option, Position.faithful.exact])
  present _ := rfl
  reads p := by
    rw [toDatum, ofDatum?, Form.ofDatum?_named]
    · simp [ParcelId.faithful.reads, faithful_count.reads,
        faithful_text.reads, Position.faithful.reads, PlayerId.faithful.option]
    · decide
    · rfl

theorem Asset.exact_toDatum (a : Asset) : Json.Exact (a.toDatum .uuid) :=
  .named (by simp [faithful_uuid.exact, faithful_count.exact, faithful_text.exact,
    faithful_bool.exact, AssetKind.faithful.exact, Datum.exact_decimal])

theorem Asset.ofDatum?_toDatum (a : Asset) :
    ofDatum? (a.toDatum .uuid) = some { a with nominal := a.nominal.unsignZero } := by
  rw [toDatum, ofDatum?, Form.ofDatum?_named]
  · simp [AssetId.faithful.reads, ParcelId.faithful.reads,
      PlayerId.faithful.reads, faithful_count.reads, faithful_text.reads, faithful_bool.reads,
      AssetKind.faithful.reads, Datum.decimal?_decimal]
  · decide
  · rfl

theorem StampedEntry.exact_toDatum (s : StampedEntry) : Json.Exact (s.toDatum .uuid) :=
  .named (by simp [faithful_uuid.exact, faithful_count.exact, faithful_text.exact,
    EntryKind.faithful.exact, faithful_uuid.exact_option, Party.faithful.exact_option])

theorem StampedEntry.ofDatum?_toDatum {s : StampedEntry} {time : Instant}
    (h : Instant.read? s.time.text.toList = some time) :
    ofDatum? (s.toDatum .uuid) = some { s with time } := by
  rw [toDatum, ofDatum?, Form.ofDatum?_named]
  · simp [EntryId.faithful.reads, faithful_count.reads,
      faithful_text.reads, EntryKind.faithful.reads, faithful_uuid.option, Party.faithful.option, h]
  · decide
  · rfl

theorem WaterSettings.faithful_zones :
    Faithful (Datum.roll id .count) (Datum.roll? Scalar.text? Datum.count?) :=
  faithful_count.roll fun _ => rfl

theorem WaterSettings.faithful : Faithful toDatum ofDatum? where
  exact s := .named (by simp [faithful_count.exact_option, faithful_text.exact_option,
    faithful_zones.exact])
  present _ := rfl
  reads s := by
    rw [toDatum, ofDatum?, Form.ofDatum?_named]
    · simp [faithful_count.option, faithful_text.option, faithful_zones.reads]
    · decide
    · rfl

theorem EconomySettings.faithful_levels :
    Faithful (Datum.roll Count.text .text) (Datum.roll? Scalar.count? Datum.text?) :=
  faithful_text.roll Scalar.nameCount?_text

theorem EconomySettings.faithful_series :
    Faithful (Datum.roll AssetKind.word (.roll Count.text .text))
      (Datum.roll? (Scalar.word? AssetKind.all AssetKind.word)
        (Datum.roll? Scalar.count? Datum.text?)) :=
  faithful_levels.roll fun k => by cases k <;> rfl

theorem EconomySettings.faithful : Faithful toDatum ofDatum? where
  exact s := .named (by simp [faithful_series.exact])
  present _ := rfl
  reads s := by
    rw [toDatum, ofDatum?, Form.ofDatum?_named]
    · simp [faithful_series.reads]
    · decide
    · rfl

def reread {α : Type} (e : Json.Escaping) (write : α → Datum) (read : Datum → Option α) (a : α) :
    Option α :=
  (Json.read (Json.writeWith e (write a))).bind read

def Lossless {α : Type} (write : α → Datum) (read : Datum → Option α) : Prop :=
  ∀ e a, reread e write read a = some a

def Decimal.Alike (a b : Decimal) : Prop := a.signed = b.signed ∧ a.scale = b.scale

theorem Decimal.alike_unsignZero (d : Decimal) : d.unsignZero.Alike d := ⟨d.signed_unsignZero, rfl⟩

theorem reread_eq {α : Type} {write : α → Datum} {a : α} (h : Json.Exact (write a))
    (e : Json.Escaping) (read : Datum → Option α) : reread e write read a = read (write a) := by
  rw [reread, Json.read_writeWith h, Option.bind_some]

theorem Datum.Faithful.lossless {α : Type} {write : α → Datum} {read : Datum → Option α}
    (h : Faithful write read) : Lossless write read :=
  fun e a => (reread_eq (h.exact a) e read).trans (h.reads a)

theorem StampedEntry.reread_toDatum (e : Json.Escaping) (s : StampedEntry) :
    ∃ time, reread e (toDatum .uuid) ofDatum? s = some { s with time } ∧
      (s.time.nano < Instant.nanosOfSecond ∨ s.time.second % 60 = 59 → time = s.time) := by
  obtain ⟨time, hread, htime⟩ := s.time.read?_text
  exact ⟨time, (reread_eq s.exact_toDatum e _).trans (ofDatum?_toDatum hread), htime⟩

/-- Texts in ASCII, which are the ones that are written out, and texts with fewer escapes are read alike.
Only the sign of a zero and a second that was put in at no minute's end do not come back. -/
theorem values_read_back :
    (∀ d, Json.write d = Json.writeWith .ascii d) ∧
    (∀ e p, ∃ money : Decimal, money.Alike p.money ∧
      reread e (Player.toDatum .uuid) Player.ofDatum? p = some { p with money }) ∧
    Lossless (Parcel.toDatum .uuid) Parcel.ofDatum? ∧
    (∀ e a, ∃ nominal : Decimal, nominal.Alike a.nominal ∧
      reread e (Asset.toDatum .uuid) Asset.ofDatum? a = some { a with nominal }) ∧
    (∀ e s, ∃ time,
      reread e (StampedEntry.toDatum .uuid) StampedEntry.ofDatum? s = some { s with time } ∧
        (s.time.nano < Instant.nanosOfSecond ∨ s.time.second % 60 = 59 → time = s.time)) ∧
    Lossless WaterSettings.toDatum WaterSettings.ofDatum? ∧
    Lossless EconomySettings.toDatum EconomySettings.ofDatum? ∧
    Lossless AssetKind.toDatum AssetKind.ofDatum? ∧
    Lossless Phase.toDatum Phase.ofDatum? ∧
    Lossless EntryKind.toDatum EntryKind.ofDatum? ∧
    Lossless Party.toDatum Party.ofDatum? := by
  refine ⟨Json.write_eq, fun e p => ⟨_, p.money.alike_unsignZero, ?_⟩, Parcel.faithful.lossless,
    fun e a => ⟨_, a.nominal.alike_unsignZero, ?_⟩, StampedEntry.reread_toDatum,
    WaterSettings.faithful.lossless, EconomySettings.faithful.lossless, AssetKind.faithful.lossless,
    Phase.faithful.lossless, EntryKind.faithful.lossless, Party.faithful.lossless⟩
  · exact (reread_eq p.exact_toDatum e _).trans p.ofDatum?_toDatum
  · exact (reread_eq a.exact_toDatum e _).trans a.ofDatum?_toDatum

def rainOnLot : StampedEntry :=
  ⟨⟨.ofNat 7⟩, ⟨.clamp 1, .rainfall, .world, .parcel ⟨.ofNat 3⟩, .clamp 12, "RAINFALL", none⟩,
    ⟨739250, 86399, 1500000000, by decide +kernel, by decide, by decide⟩⟩

theorem rainOnLot_read_back :
    reread .least (StampedEntry.toDatum .uuid) StampedEntry.ofDatum? rainOnLot = some rainOnLot := by
  obtain ⟨time, hread, htime⟩ := values_read_back.2.2.2.2.1 .least rainOnLot
  rwa [htime (Or.inr (by decide +kernel))] at hread

end Watershed
