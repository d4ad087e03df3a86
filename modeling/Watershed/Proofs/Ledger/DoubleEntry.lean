import Watershed.Proofs.Ledger.Drafting
import Watershed.Proofs.Ledger.Holdings
import Mathlib.Algebra.Ring.Int.Defs
import Mathlib.Data.List.Dedup

namespace Watershed.Ledger

def entities (l : Ledger) : List Uuid :=
  (l.entries.flatMap fun e => e.source.entity.toList ++ e.target.entity.toList).dedup

def rounds (l : Ledger) : List Count := (l.entries.map (·.round)).dedup

theorem mem_entities {l : Ledger} {u : Uuid} :
    u ∈ l.entities ↔ ∃ e ∈ l.entries, e.source.entity = some u ∨ e.target.entity = some u := by
  simp [entities]

theorem wellFormed_submit {l : Ledger} (hl : ∀ e ∈ l.entries, e.WellFormed) (d : Draft) :
    ∀ e ∈ (l.submit d).2.entries, e.WellFormed := by
  cases h : d.toEntry with
  | error fault =>
    have hsame : (l.submit d).2 = l := by simp [submit, record, h]
    rwa [hsame]
  | ok e =>
    have hmore : (l.submit d).2 = l.append e := by simp [submit, record, h]
    have he : e.WellFormed := (Draft.toEntry_eq_ok.mp h).1
    rw [hmore]
    intro e' he'
    rcases List.mem_append.mp he' with he' | he'
    · exact hl e' he'
    · exact List.mem_singleton.mp he' ▸ he

theorem wellFormed_submitAll {l : Ledger} (hl : ∀ e ∈ l.entries, e.WellFormed) (ds : List Draft) :
    ∀ e ∈ (l.submitAll ds).entries, e.WellFormed := by
  induction ds generalizing l with
  | nil => exact hl
  | cons d ds ih => exact ih (wellFormed_submit hl d)

theorem sum_map_add_eq {α : Type} {f : α → Int} {g h : α → Nat} (heq : ∀ a, f a + g a = h a)
    (l : List α) : (l.map f).sum + ((l.map g).sum : Int) = (l.map h).sum := by
  induction l with
  | nil => rfl
  | cons a l ih =>
    have ha := heq a
    simp only [List.map_cons, List.sum_cons]
    omega

def named (side : Entry → Side) (es : List Entry) : Nat :=
  quantitySum (es.filter fun e => (side e).entity.isSome)

theorem sum_entities (l : Ledger) (side : Entry → Side)
    (h : ∀ e ∈ l.entries, ∀ u, (side e).entity = some u → u ∈ l.entities) :
    (l.entities.map fun u =>
      (l.entries.map fun e => if (side e).entity = some u then e.quantity.val else 0).sum).sum =
      named side l.entries := by
  have hnodup : (l.entities.map some).Nodup := (List.nodup_dedup _).map (Option.some_injective _)
  have hlabels := sum_labels (fun e => (side e).entity) (fun e => e.quantity.val) hnodup l.entries
  rw [List.map_map] at hlabels
  rw [named, quantitySum, Count.total_map_filter]
  refine hlabels.trans (congrArg List.sum (List.map_congr_left fun e he => ?_))
  cases hs : (side e).entity with
  | none => simp
  | some u => exact if_pos (List.mem_map_of_mem (h e he u hs))

theorem sum_rounds (l : Ledger) (p : Entry → Bool) :
    (l.rounds.map fun round => quantitySum ((l.ofRound round).filter p)).sum =
      quantitySum (l.entries.filter p) := by
  have hlabels := sum_labels Entry.round (counted p) (List.nodup_dedup (l.entries.map (·.round)))
    l.entries
  have hleft (round : Count) : quantitySum ((l.ofRound round).filter p) =
      (l.entries.map fun e => if e.round = round then counted p e else 0).sum := by
    rw [← filter_ofRound, quantitySum, Count.total_map_filter]
    refine congrArg List.sum (List.map_congr_left fun e _ => ?_)
    by_cases hr : e.round = round <;> simp [hr, counted]
  have hright : quantitySum (l.entries.filter p) =
      (l.entries.map fun e => if e.round ∈ l.rounds then counted p e else 0).sum := by
    rw [quantitySum, Count.total_map_filter]
    refine congrArg List.sum (List.map_congr_left fun e he => ?_)
    have hround : e.round ∈ l.rounds := List.mem_dedup.mpr (List.mem_map_of_mem he)
    rw [if_pos hround, counted]
  simp only [hleft]
  rw [hright]
  exact hlabels

theorem sum_balances {l : Ledger} (hl : l.entries.length < 2 ^ 62) :
    (l.entities.map l.balanceOf).sum + (named (·.source) l.entries : Int) =
      named (·.target) l.entries := by
  have hq := quantitySum_le l.entries
  have hbalance (u : Uuid) : l.balanceOf u +
      ((l.entries.map fun e => if e.source.entity = some u then e.quantity.val else 0).sum : Nat) =
        ((l.entries.map fun e => if e.target.entity = some u then e.quantity.val else 0).sum : Nat) := by
    have hb := foldl_balanceStep u l.entries (b := 0)
      (by simp only [signedBound]; omega) (by simp only [signedBound]; omega)
    rw [balanceOf, hb]
    omega
  have hsource := sum_entities l (·.source) fun e he u hu =>
    mem_entities.mpr ⟨e, he, Or.inl hu⟩
  have htarget := sum_entities l (·.target) fun e he u hu =>
    mem_entities.mpr ⟨e, he, Or.inr hu⟩
  rw [← hsource, ← htarget]
  exact sum_map_add_eq hbalance l.entities

theorem sum_netFlows {l : Ledger} (hl : l.entries.length < 2 ^ 62) :
    (l.rounds.map l.netFlow).sum + (drained l.entries : Int) = rained l.entries := by
  have hq := quantitySum_le l.entries
  have hflow (round : Count) : l.netFlow round + (drained (l.ofRound round) : Int) =
      rained (l.ofRound round) := by
    have hle := quantitySum_filter_le (·.round = round) l.entries
    have hround : quantitySum (l.ofRound round) < 2 ^ 127 := by
      simp only [ofRound]
      omega
    rw [netFlow_eq hround]
    omega
  have hrained : _ = rained l.entries := sum_rounds l (·.kind = .rainfall)
  have hdrained : _ = drained l.entries := sum_rounds l (·.kind.sink)
  rw [← hrained, ← hdrained]
  exact sum_map_add_eq hflow l.rounds

theorem named_add_drained {es : List Entry} (hw : ∀ e ∈ es, e.WellFormed) :
    named (·.target) es + drained es = named (·.source) es + rained es := by
  simp only [named, drained, rained, quantitySum, Count.total_map_filter, ← List.sum_map_add]
  refine congrArg List.sum (List.map_congr_left fun e he => ?_)
  have hsource := (hw e he).source.2
  have htarget := (hw e he).target.2
  cases hk : e.kind <;>
    simp_all [EntryKind.source, EntryKind.target, EntryKind.sink, Party.Holds]

structure Doubled (l : Ledger) : Prop where
  sums : (l.entities.map l.balanceOf).sum = (l.rounds.map l.netFlow).sum
  balanced (round : Count) : l.walkConservation round = .balanced

theorem double_entry (ds : List Draft) (hl : (submitAll .empty ds).entries.length < 2 ^ 62) :
    (submitAll .empty ds).Doubled := by
  have hw : ∀ e ∈ (submitAll .empty ds).entries, e.WellFormed :=
    wellFormed_submitAll (fun e he => by cases he) ds
  refine ⟨?_, fun round => ?_⟩
  · have hbalances := sum_balances hl
    have hflows := sum_netFlows hl
    have hnamed := named_add_drained hw
    omega
  · rw [walkConservation_eq]
    exact auditConservation_of_wellFormed hw hl round

def mistaken : List Draft := [(Entry.rainfall 1 (.clamp 9) ⟨.ofNat 3⟩).toDraft,
  (Entry.allocate 1 (.clamp 5) ⟨.ofNat 3⟩ ⟨.ofNat 3⟩ ⟨.ofNat 1⟩).toDraft, .blank 1 .forfeit,
  (Entry.forfeit (.clamp 2) (.clamp 4) ⟨.ofNat 3⟩ ⟨.ofNat 1⟩).toDraft]

theorem mistaken_doubled : (submitAll .empty mistaken).entries.length < 2 ^ 62 ∧
    (submitAll .empty mistaken).Doubled :=
  ⟨by decide, double_entry mistaken (by decide)⟩

example : (submitAll .empty mistaken).entities.map (submitAll .empty mistaken).balanceOf = [5] ∧
    (submitAll .empty mistaken).rounds.map (submitAll .empty mistaken).netFlow = [9, -4] := by
  decide

end Watershed.Ledger
