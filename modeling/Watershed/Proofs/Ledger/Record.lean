import Watershed.Ledger.Basic
import Watershed.Proofs.Outcome

namespace Watershed

theorem Draft.checkSide_eq_ok {kind : EntryKind} {name : SideName} {expected : Party} {side : Side}
    {u : Unit} : Draft.checkSide kind name expected side = .ok u ↔ side.Fits expected := by
  unfold Draft.checkSide Side.Fits
  split
  · rename_i hp
    exact iff_of_false (by simp) fun h => hp h.1
  · rename_i hp
    have hp : side.party = some expected := Decidable.not_not.mp hp
    by_cases hh : expected.Holds <;> cases hs : side.entity <;> simp [hp, hh]

theorem Entry.toEntry_toDraft {e e' : Entry} :
    e.toDraft.toEntry = .ok e' ↔ e.WellFormed ∧ e' = e := by
  have hq : e.quantity = 0 ↔ ¬ 0 < e.quantity.val := by
    rw [← Count.val_inj]
    show e.quantity.val = 0 ↔ _
    omega
  simp only [toDraft, Draft.toEntry]
  by_cases hz : e.quantity = 0
  · rw [if_pos hz]
    exact iff_of_false (by simp) fun h => hq.mp hz h.1.positive
  · rw [if_neg hz]
    simp only [bind_eq_ok, Draft.checkSide_eq_ok, Except.ok.injEq, exists_const]
    constructor
    · rintro ⟨hs, ht, rfl⟩
      exact ⟨⟨Decidable.not_not.mp fun h => hz (hq.mpr h), hs, ht⟩, rfl⟩
    · rintro ⟨h, rfl⟩
      exact ⟨h.source, h.target, rfl⟩

namespace Side

theorem fits_world : Side.world.Fits .world := ⟨rfl, by decide⟩

theorem fits_void : Side.void.Fits .void := ⟨rfl, by decide⟩

theorem fits_parcel (id : ParcelId) : (Side.parcel id).Fits .parcel :=
  ⟨rfl, by simp [Side.parcel, Party.Holds]⟩

theorem fits_asset (id : AssetId) : (Side.asset id).Fits .asset :=
  ⟨rfl, by simp [Side.asset, Party.Holds]⟩

end Side

namespace Entry

theorem wellFormed_rainfall {round quantity : Count} (id : ParcelId) (h : 0 < quantity.val) :
    (rainfall round quantity id).WellFormed :=
  ⟨h, Side.fits_world, Side.fits_parcel id⟩

theorem wellFormed_evaporate {round quantity : Count} (id : ParcelId) (h : 0 < quantity.val) :
    (evaporate round quantity id).WellFormed :=
  ⟨h, Side.fits_parcel id, Side.fits_void⟩

theorem wellFormed_consume {round quantity : Count} (id : AssetId) (h : 0 < quantity.val) :
    (consume round quantity id).WellFormed :=
  ⟨h, Side.fits_asset id, Side.fits_void⟩

theorem wellFormed_allocate {round quantity : Count} (id : ParcelId) (asset : AssetId)
    (player : PlayerId) (h : 0 < quantity.val) :
    (allocate round quantity id asset player).WellFormed :=
  ⟨h, Side.fits_parcel id, Side.fits_asset asset⟩

theorem wellFormed_giveBack {round quantity : Count} (asset : AssetId) (id : ParcelId)
    (player : PlayerId) (h : 0 < quantity.val) :
    (giveBack round quantity asset id player).WellFormed :=
  ⟨h, Side.fits_asset asset, Side.fits_parcel id⟩

theorem wellFormed_forfeit {round quantity : Count} (asset : AssetId) (player : PlayerId)
    (h : 0 < quantity.val) : (forfeit round quantity asset player).WellFormed :=
  ⟨h, Side.fits_asset asset, Side.fits_void⟩

end Entry

namespace Ledger

@[simp] theorem appendAll_nil (l : Ledger) : l.appendAll [] = l := by
  simp [appendAll]

@[simp] theorem entries_appendAll (l : Ledger) (es : List Entry) :
    (l.appendAll es).entries = l.entries ++ es := rfl

theorem appendAll_appendAll (l : Ledger) (es es' : List Entry) :
    (l.appendAll es).appendAll es' = l.appendAll (es ++ es') := by
  simp [appendAll]

theorem record_toDraft {l : Ledger} {e : Entry} {x : Entry × Ledger} :
    l.record e.toDraft = .ok x ↔ e.WellFormed ∧ x = (e, l.appendAll [e]) := by
  simp only [record, bind_eq_ok, Entry.toEntry_toDraft, Except.ok.injEq]
  constructor
  · rintro ⟨_, ⟨h, rfl⟩, rfl⟩
    exact ⟨h, rfl⟩
  · rintro ⟨h, rfl⟩
    exact ⟨e, ⟨h, rfl⟩, rfl⟩

theorem recordAll_eq_ok {l l' : Ledger} {es : List Entry} :
    l.recordAll es = .ok l' ↔ (∀ e ∈ es, e.WellFormed) ∧ l' = l.appendAll es := by
  induction es generalizing l with
  | nil => simp [recordAll, eq_comm]
  | cons e es ih =>
    simp only [recordAll, bind_eq_ok, record_toDraft, List.forall_mem_cons]
    constructor
    · rintro ⟨_, ⟨he, rfl⟩, h⟩
      obtain ⟨hes, rfl⟩ := ih.mp h
      exact ⟨⟨he, hes⟩, appendAll_appendAll l [e] es⟩
    · rintro ⟨⟨he, hes⟩, rfl⟩
      exact ⟨_, ⟨he, rfl⟩, ih.mpr ⟨hes, (appendAll_appendAll l [e] es).symm⟩⟩

end Ledger
end Watershed
