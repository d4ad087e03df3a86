import Watershed.Proofs.Ledger.Record

namespace Watershed

namespace Draft

def Part.source? : Part → Option Side
  | .source side => some side
  | _ => none

def Part.target? : Part → Option Side
  | .target side => some side
  | _ => none

def Part.quantity? : Part → Option Count
  | .quantity n => some n
  | _ => none

def Part.reason? : Part → Option String
  | .reason text => some text
  | _ => none

def Part.reference? : Part → Option Uuid
  | .reference id => some id
  | _ => none

def last? {α : Type} (pick : Part → Option α) (parts : List Part) : Option α :=
  (parts.filterMap pick).getLast?

theorem last?_cons {α : Type} (pick : Part → Option α) (p : Part) (parts : List Part) :
    last? pick (p :: parts) = (last? pick parts).or (pick p) := by
  cases h : pick p with
  | none => simp [last?, h]
  | some a =>
    rw [last?, List.filterMap_cons_some h, List.getLast?_cons, last?]
    cases (parts.filterMap pick).getLast? <;> rfl

theorem get_foldl_fill {α : Type} (get : Draft → Option α) (pick : Part → Option α)
    (h : ∀ d p, get (d.fill p) = (pick p).or (get d)) (parts : List Part) (d : Draft) :
    get (parts.foldl fill d) = (last? pick parts).or (get d) := by
  induction parts generalizing d with
  | nil => rfl
  | cons p parts ih => rw [List.foldl_cons, ih, h, last?_cons, Option.or_assoc]

theorem foldl_fill_frame (parts : List Part) (d : Draft) :
    (parts.foldl fill d).round = d.round ∧ (parts.foldl fill d).kind = d.kind := by
  induction parts generalizing d with
  | nil => exact ⟨rfl, rfl⟩
  | cons p parts ih => cases p <;> exact ih _

def latest (round : Count) (kind : EntryKind) (parts : List Part) : Draft where
  round := round
  kind := kind
  source := (last? Part.source? parts).getD .unset
  target := (last? Part.target? parts).getD .unset
  quantity := last? Part.quantity? parts
  reason := last? Part.reason? parts
  reference := last? Part.reference? parts

theorem foldl_fill (round : Count) (kind : EntryKind) (parts : List Part) :
    parts.foldl fill (blank round kind) = latest round kind parts := by
  obtain ⟨hround, hkind⟩ := foldl_fill_frame parts (blank round kind)
  have hsource := get_foldl_fill (fun d => some d.source) Part.source?
    (fun d p => by cases p <;> rfl) parts (blank round kind)
  have htarget := get_foldl_fill (fun d => some d.target) Part.target?
    (fun d p => by cases p <;> rfl) parts (blank round kind)
  have hquantity := get_foldl_fill quantity Part.quantity?
    (fun d p => by cases p <;> rfl) parts (blank round kind)
  have hreason := get_foldl_fill reason Part.reason?
    (fun d p => by cases p <;> rfl) parts (blank round kind)
  have hreference := get_foldl_fill reference Part.reference?
    (fun d p => by cases p <;> rfl) parts (blank round kind)
  generalize parts.foldl fill (blank round kind) = d at *
  obtain ⟨_, _, _, _, _, _, _⟩ := d
  simp only [blank, Option.or_some, Option.or_none, Option.some.injEq] at *
  subst hround hkind hsource htarget hquantity hreason hreference
  rfl

def sideObjections (kind : EntryKind) (name : SideName) (expected : Party) (side : Side) :
    List LedgerFault :=
  (if side.party = some expected then [] else [.wrongParty kind name expected side.party]) ++
    (if expected.Holds ∧ side.entity = none then [.missing .entity] else []) ++
    if ¬ expected.Holds ∧ side.entity ≠ none then [.missing .anonymity] else []

def objections (d : Draft) : List LedgerFault :=
  (if d.quantity = none then [.missing .quantity] else []) ++
    (if d.reason = none then [.missing .reason] else []) ++
    (if d.quantity = some 0 then [.zeroQuantity] else []) ++
    sideObjections d.kind .source d.kind.source d.source ++
    sideObjections d.kind .target d.kind.target d.target

theorem checkSide_eq (kind : EntryKind) (name : SideName) (expected : Party) (side : Side) :
    checkSide kind name expected side =
      match (sideObjections kind name expected side).head? with
      | some fault => .error fault
      | none => .ok () := by
  by_cases hp : side.party = some expected <;> by_cases hh : expected.Holds <;>
    cases hs : side.entity <;> simp [checkSide, sideObjections, hp, hh, hs]

theorem toEntry_eq_error {d : Draft} {fault : LedgerFault} :
    d.toEntry = .error fault ↔ d.objections.head? = some fault := by
  unfold toEntry objections
  cases hq : d.quantity with
  | none => simp
  | some quantity =>
    cases hr : d.reason with
    | none => simp
    | some reason =>
      by_cases hz : quantity = 0
      · simp [hz]
      · simp only [checkSide_eq]
        cases hs : (sideObjections d.kind .source d.kind.source d.source).head? <;>
          cases ht : (sideObjections d.kind .target d.kind.target d.target).head? <;>
          simp [hz, hs, ht]

theorem toEntry_eq_ok {d : Draft} {e : Entry} :
    d.toEntry = .ok e ↔ e.WellFormed ∧ e.toDraft = d := by
  constructor
  · intro h
    have hd : e.toDraft = d := by
      unfold toEntry at h
      cases hq : d.quantity with
      | none => simp [hq] at h
      | some quantity =>
        cases hr : d.reason with
        | none => simp [hq, hr] at h
        | some reason =>
          simp only [hq, hr] at h
          split at h
          · cases h
          · obtain ⟨_, _, h⟩ := bind_eq_ok.mp h
            obtain ⟨_, _, h⟩ := bind_eq_ok.mp h
            cases h
            obtain ⟨r, k, source, target, q, n, reference⟩ := d
            cases hq
            cases hr
            rfl
    exact ⟨(Entry.toEntry_toDraft.mp (hd ▸ h)).1, hd⟩
  · rintro ⟨h, rfl⟩
    exact Entry.toEntry_toDraft.mpr ⟨h, rfl⟩

structure Completes (kind : EntryKind) (parts : List Part) : Prop where
  reason : ∃ text, last? Part.reason? parts = some text
  quantity : ∃ n, last? Part.quantity? parts = some n ∧ 0 < n.val
  source : ∃ side, last? Part.source? parts = some side ∧ side.Fits kind.source
  target : ∃ side, last? Part.target? parts = some side ∧ side.Fits kind.target

structure Carries (round : Count) (kind : EntryKind) (parts : List Part) (e : Entry) : Prop where
  round : e.round = round
  kind : e.kind = kind
  source : last? Part.source? parts = some e.source
  target : last? Part.target? parts = some e.target
  quantity : last? Part.quantity? parts = some e.quantity
  reason : last? Part.reason? parts = some e.reason
  reference : last? Part.reference? parts = e.reference

theorem fits_unset (expected : Party) : ¬ Side.unset.Fits expected := fun h => by cases h.1

theorem last?_of_fits {pick : Part → Option Side} {parts : List Part} {expected : Party}
    (h : ((last? pick parts).getD .unset).Fits expected) :
    last? pick parts = some ((last? pick parts).getD .unset) := by
  cases hl : last? pick parts with
  | none =>
    rw [hl] at h
    exact absurd h (fits_unset expected)
  | some side => rfl

variable {round : Count} {kind : EntryKind} {parts : List Part} {e : Entry}

theorem carries_of_latest (hw : e.WellFormed) (h : e.toDraft = latest round kind parts) :
    Carries round kind parts e := by
  have hsource : e.source = (last? Part.source? parts).getD .unset := congrArg Draft.source h
  have htarget : e.target = (last? Part.target? parts).getD .unset := congrArg Draft.target h
  refine ⟨congrArg Draft.round h, congrArg Draft.kind h, ?_, ?_, (congrArg Draft.quantity h).symm,
    (congrArg Draft.reason h).symm, (congrArg Draft.reference h).symm⟩
  · rw [hsource]
    exact last?_of_fits (hsource ▸ hw.source)
  · rw [htarget]
    exact last?_of_fits (htarget ▸ hw.target)

theorem Carries.completes (h : Carries round kind parts e) (hw : e.WellFormed) :
    Completes kind parts :=
  ⟨⟨_, h.reason⟩, ⟨_, h.quantity, hw.positive⟩, ⟨_, h.source, h.kind ▸ hw.source⟩,
    ⟨_, h.target, h.kind ▸ hw.target⟩⟩

theorem Completes.exists_entry (h : Completes kind parts) (round : Count) :
    ∃ e : Entry, e.WellFormed ∧ e.toDraft = latest round kind parts := by
  obtain ⟨⟨text, hreason⟩, ⟨n, hquantity, hn⟩, ⟨source, hsource, hs⟩, ⟨target, htarget, ht⟩⟩ := h
  refine ⟨⟨round, kind, source, target, n, text, last? Part.reference? parts⟩, ⟨hn, hs, ht⟩, ?_⟩
  simp only [Entry.toDraft, latest, hreason, hquantity, hsource, htarget, Option.getD_some]

theorem drafted_exactly (round : Count) (kind : EntryKind) (parts : List Part) :
    ((∃ e, (parts.foldl fill (blank round kind)).toEntry = .ok e) ↔ Completes kind parts) ∧
    (∀ e, (parts.foldl fill (blank round kind)).toEntry = .ok e → Carries round kind parts e) ∧
    (∀ fault, (parts.foldl fill (blank round kind)).toEntry = .error fault ↔
      (latest round kind parts).objections.head? = some fault) ∧
    ∀ l : Ledger, l.submit (parts.foldl fill (blank round kind)) =
      ((parts.foldl fill (blank round kind)).toEntry,
        match (parts.foldl fill (blank round kind)).toEntry with
        | .ok e => l.append e
        | .error _ => l) := by
  rw [foldl_fill]
  refine ⟨⟨?_, fun h => ?_⟩, fun e h => ?_, fun fault => toEntry_eq_error, fun l => ?_⟩
  · rintro ⟨e, h⟩
    obtain ⟨hw, he⟩ := toEntry_eq_ok.mp h
    exact (carries_of_latest hw he).completes hw
  · obtain ⟨e, hw, he⟩ := h.exists_entry round
    exact ⟨e, toEntry_eq_ok.mpr ⟨hw, he⟩⟩
  · obtain ⟨hw, he⟩ := toEntry_eq_ok.mp h
    exact carries_of_latest hw he
  · rw [Ledger.submit, Ledger.record]
    cases (latest round kind parts).toEntry <;> rfl

def losing : List Part := [.source ⟨some .world, some (.ofNat 7)⟩, .target (.parcel ⟨.ofNat 3⟩),
  .quantity 0, .source (.asset ⟨.ofNat 7⟩), .reason "FORFEIT", .target .void, .quantity 1]

theorem losing_drafted :
    (losing.foldl fill (blank 1 .forfeit)).toEntry =
      .ok ⟨1, .forfeit, .asset ⟨.ofNat 7⟩, .void, 1, "FORFEIT", none⟩ ∧
    Carries 1 .forfeit losing ⟨1, .forfeit, .asset ⟨.ofNat 7⟩, .void, 1, "FORFEIT", none⟩ :=
  ⟨rfl, (drafted_exactly 1 .forfeit losing).2.1 _ rfl⟩

example : (latest 1 .forfeit (losing.take 5)).objections =
    [.zeroQuantity, .wrongParty .forfeit .target .void (some .parcel), .missing .anonymity] := by
  decide

end Draft
end Watershed
