import Watershed.Proofs.Game.Books

namespace Watershed.Game

open Ledger

structure Mirrored (g : Game) : Prop where
  wellFormed : ∀ e ∈ g.ledger.entries, e.WellFormed
  sides : ∀ s, s.holds = true →
    g.holding s + given g.ledger.entries s = received g.ledger.entries s

theorem mirrored_empty : Mirrored .empty := by
  refine ⟨?_, fun s _ => rfl⟩
  intro e he
  cases he

theorem Mirrored.entered {g g' : Game} {es : List Entry} (h : Mirrored g) (he : Entered g g' es) :
    Mirrored g' := by
  refine ⟨he.forall_entries h.wellFormed he.wellFormed, fun s hs => ?_⟩
  have hold := h.sides s hs
  have hnew := he.sides s hs
  rw [he.ledger, entries_appendAll, given_append, received_append]
  omega

theorem Mirrored.run {g g' : Game} (h : Mirrored g) (hr : Run (fun g a => a.Orderly g) g g') :
    Mirrored g' :=
  hr.invariant (fun _ _ ha hg => (after_entered ha).elim fun _ he => hg.entered he) h

theorem holding_parcel (g : Game) (id : ParcelId) :
    g.holding (.parcel id) = (g.waterOn id).val := by
  have hassets : (g.assets.sum fun a =>
      if Side.asset a.id = Side.parcel id then a.allocated.val else 0) = 0 :=
    Roll.sum_eq_zero fun a _ => if_neg Side.asset_ne_parcel
  have hparcels : (g.parcels.sum fun q => if key q = id then q.water.val else 0) =
      (g.waterOn id).val := by
    rw [Roll.sum_at, waterOn]
    cases g.parcels.find? id <;> rfl
  simp only [holding, hassets, Side.parcel_inj, Nat.add_zero]
  exact hparcels

theorem holding_asset (g : Game) (id : AssetId) :
    g.holding (.asset id) = ((g.assets.find? id).map (·.allocated.val)).getD 0 := by
  have hparcels : (g.parcels.sum fun q =>
      if Side.parcel q.id = Side.asset id then q.water.val else 0) = 0 :=
    Roll.sum_eq_zero fun q _ => if_neg Side.parcel_ne_asset
  simp only [holding, hparcels, Side.asset_inj, Nat.zero_add]
  exact Roll.sum_at

theorem Mirrored.balanceOf {g : Game} (h : Mirrored g) (hl : g.ledger.entries.length < 2 ^ 62)
    (u : Uuid) :
    g.ledger.balanceOf u =
      (g.waterOn ⟨u⟩).val + (((g.assets.find? ⟨u⟩).map (·.allocated.val)).getD 0 : Nat) := by
  have hb := balanceOf_eq h.wellFormed hl u
  have hp := h.sides (.parcel ⟨u⟩) rfl
  have ha := h.sides (.asset ⟨u⟩) rfl
  rw [holding_parcel] at hp
  rw [holding_asset] at ha
  omega

theorem waterOn_of_mem {g : Game} {q : Parcel} (hq : q ∈ g.parcels.toList) :
    g.waterOn q.id = q.water := by
  have hf : g.parcels.find? q.id = some q := Roll.find?_of_mem hq
  rw [waterOn, hf]

theorem waterOn_of_forall_ne {g : Game} {id : ParcelId} (h : ∀ q ∈ g.parcels.toList, q.id ≠ id) :
    g.waterOn id = 0 := by
  rw [waterOn, Roll.find?_eq_none.mpr h]

theorem ledger_mirrors_board {g : Game} (hg : Run (fun g a => a.Orderly g) .empty g)
    (hids : ∀ q ∈ g.parcels.toList, ∀ a ∈ g.assets.toList, q.id.uuid ≠ a.id.uuid)
    (hl : g.ledger.entries.length < 2 ^ 62) :
    (∀ q ∈ g.parcels.toList, g.ledger.balanceOf q.id.uuid = q.water.val) ∧
      (∀ a ∈ g.assets.toList, g.ledger.balanceOf a.id.uuid = a.allocated.val) ∧
      (∀ u, (∀ q ∈ g.parcels.toList, q.id.uuid ≠ u) → (∀ a ∈ g.assets.toList, a.id.uuid ≠ u) →
        g.ledger.balanceOf u = 0) ∧
      (∀ round, g.ledger.auditConservation round = .balanced) ∧
      ∀ a : Act, a.Orderly g → ∃ es, (g.after a).ledger.entries = g.ledger.entries ++ es ∧
        ∀ e ∈ es, e.round = g.round ∧ e.WellFormed := by
  have hm : Mirrored g := mirrored_empty.run hg
  refine ⟨fun q hq => ?_, fun a ha => ?_, fun u hparcels hassets => ?_, fun round => ?_,
    fun a ha => ?_⟩
  · have hnone : g.assets.find? ⟨q.id.uuid⟩ = none :=
      Roll.find?_eq_none.mpr fun a ha e => hids q hq a ha (congrArg AssetId.uuid e).symm
    rw [hm.balanceOf hl, hnone, waterOn_of_mem hq]
    rfl
  · have hsome : g.assets.find? a.id = some a := Roll.find?_of_mem ha
    have hdry : g.waterOn ⟨a.id.uuid⟩ = 0 :=
      waterOn_of_forall_ne fun q hq e => hids q hq a ha (congrArg ParcelId.uuid e)
    rw [hm.balanceOf hl, hsome, hdry]
    exact Int.zero_add _
  · have hnone : g.assets.find? ⟨u⟩ = none :=
      Roll.find?_eq_none.mpr fun a ha e => hassets a ha (congrArg AssetId.uuid e)
    have hdry : g.waterOn ⟨u⟩ = 0 :=
      waterOn_of_forall_ne fun q hq e => hparcels q hq (congrArg ParcelId.uuid e)
    rw [hm.balanceOf hl, hnone, hdry]
    rfl
  · exact auditConservation_of_wellFormed hm.wellFormed hl round
  · obtain ⟨es, he⟩ := after_entered ha
    exact ⟨es, congrArg Ledger.entries he.ledger, fun e hm => ⟨he.stamped e hm, he.wellFormed e hm⟩⟩

open Sample in
theorem mill_mirrored :
    (afterAll .empty (settling ++ milling)).ledger.balanceOf mill.uuid = 3 := by
  have hr : Run (fun g a => a.Orderly g) .empty (afterAll .empty (settling ++ milling)) :=
    .afterAll (by decide +kernel)
  have h := ledger_mirrors_board hr (by decide +kernel) (by decide +kernel)
  have hm : ∃ a ∈ (afterAll .empty (settling ++ milling)).assets.toList,
      a.id = mill ∧ a.allocated.val = 3 := by decide +kernel
  obtain ⟨a, ha, hid, hn⟩ := hm
  have hb := h.2.1 a ha
  rw [hid, hn] at hb
  exact hb

end Watershed.Game
