import Watershed.Proofs.Game.Books
import Mathlib.Data.List.Dedup

namespace Watershed

namespace Ledger

theorem entry_balance {e : Entry} (h : e.WellFormed) :
    (if e.source.holds then e.quantity.val else 0) + (if e.kind = .rainfall then e.quantity.val else 0) =
      (if e.target.holds then e.quantity.val else 0) + if e.kind.sink then e.quantity.val else 0 := by
  have hs := h.source.holds_iff
  have ht := h.target.holds_iff
  cases hk : e.kind <;> simp_all [EntryKind.source, EntryKind.target, EntryKind.sink, Party.Holds]

theorem entries_balance {es : List Entry} (h : ∀ e ∈ es, e.WellFormed) :
    (es.map fun e => if e.source.holds then e.quantity.val else 0).sum + rained es =
      (es.map fun e => if e.target.holds then e.quantity.val else 0).sum + drained es := by
  rw [rained, drained, quantitySum, quantitySum, Count.total_map_filter, Count.total_map_filter,
    ← List.sum_map_add, ← List.sum_map_add]
  refine congrArg List.sum (List.map_congr_left fun e he => ?_)
  simpa only [decide_eq_true_eq] using entry_balance (h e he)

end Ledger

namespace Game

open Ledger

def volume (g : Game) : Nat :=
  (g.parcels.sum fun q => q.water.val) + g.assets.sum fun a => a.allocated.val

theorem held_eq (g : Game) : g.held = min g.volume Count.wideTop := by
  rw [held, Count.wideSum, Count.total_append, Roll.total_map, Roll.total_map, volume]

theorem volume_le (g : Game) :
    g.volume ≤ g.parcels.size * 18446744073709551615 + g.assets.size * 18446744073709551615 := by
  refine Nat.add_le_add (Roll.sum_le fun q _ => ?_) (Roll.sum_le fun a _ => ?_)
  · exact Nat.le_of_lt_succ q.water.val_lt
  · exact Nat.le_of_lt_succ a.allocated.val_lt

theorem held_eq_volume {g : Game} (h : g.parcels.size + g.assets.size < 2 ^ 63) :
    g.held = g.volume := by
  -- so few parcels and assets cannot hold more than 128 bits
  have hle := volume_le g
  rw [held_eq]
  refine Nat.min_eq_left ?_
  simp only [Count.wideTop]
  omega

def sidesOf (g : Game) : List Side :=
  g.parcels.toList.map (fun q => .parcel q.id) ++ g.assets.toList.map fun a => .asset a.id

theorem sum_holding {g : Game} {sides : List Side} (hn : sides.Nodup)
    (h : ∀ s ∈ g.sidesOf, s ∈ sides) : (sides.map g.holding).sum = g.volume := by
  have hparcels : ∀ q ∈ g.parcels.toList,
      (if Side.parcel q.id ∈ sides then q.water.val else 0) = q.water.val := fun q hq =>
    if_pos (h _ (List.mem_append_left _ (List.mem_map_of_mem hq)))
  have hassets : ∀ a ∈ g.assets.toList,
      (if Side.asset a.id ∈ sides then a.allocated.val else 0) = a.allocated.val := fun a ha =>
    if_pos (h _ (List.mem_append_right _ (List.mem_map_of_mem ha)))
  have hsplit : (sides.map g.holding).sum =
      (sides.map fun s => g.parcels.sum fun q => if .parcel q.id = s then q.water.val else 0).sum +
        (sides.map fun s => g.assets.sum fun a => if .asset a.id = s then a.allocated.val else 0).sum :=
    List.sum_map_add
  have hp := sum_labels (fun q : Parcel => Side.parcel q.id) (fun q => q.water.val) hn g.parcels.toList
  have ha := sum_labels (fun a : Asset => Side.asset a.id) (fun a => a.allocated.val) hn g.assets.toList
  rw [hsplit, volume]
  exact congrArg₂ (· + ·) (hp.trans (Roll.sum_congr hparcels)) (ha.trans (Roll.sum_congr hassets))

theorem holds_of_mem_sidesOf {g : Game} {s : Side} (h : s ∈ g.sidesOf) : s.holds = true := by
  rcases List.mem_append.mp h with h | h
  · obtain ⟨_, _, rfl⟩ := List.mem_map.mp h
    rfl
  · obtain ⟨_, _, rfl⟩ := List.mem_map.mp h
    rfl

theorem exists_sides (g g' : Game) (es : List Entry) : ∃ sides : List Side, sides.Nodup ∧
    (∀ s ∈ sides, s.holds = true) ∧ (∀ s ∈ g.sidesOf, s ∈ sides) ∧ (∀ s ∈ g'.sidesOf, s ∈ sides) ∧
    (∀ e ∈ es, e.source ∈ sides ↔ e.source.holds = true) ∧
    ∀ e ∈ es, e.target ∈ sides ↔ e.target.holds = true := by
  refine ⟨((g.sidesOf ++ g'.sidesOf ++ es.map Entry.source ++ es.map Entry.target).filter
    Side.holds).dedup, List.nodup_dedup _, fun s hs => ?_, fun s hs => ?_, fun s hs => ?_,
    fun e he => ?_, fun e he => ?_⟩
  · exact (List.mem_filter.mp (List.mem_dedup.mp hs)).2
  · simp [hs, holds_of_mem_sidesOf hs]
  · simp [hs, holds_of_mem_sidesOf hs]
  · simp only [List.mem_dedup, List.mem_filter, List.mem_append]
    exact ⟨fun h => h.2, fun h => ⟨Or.inl (Or.inr (List.mem_map_of_mem he)), h⟩⟩
  · simp only [List.mem_dedup, List.mem_filter, List.mem_append]
    exact ⟨fun h => h.2, fun h => ⟨Or.inr (List.mem_map_of_mem he), h⟩⟩

theorem Entered.volume {g g' : Game} {es : List Entry} (h : Entered g g' es) :
    g'.volume + drained es = g.volume + rained es := by
  have hentries := entries_balance h.wellFormed
  obtain ⟨sides, hn, hholds, hold, hnew, hsource, htarget⟩ := exists_sides g g' es
  have hgiven : (sides.map fun s => given es s).sum =
      (es.map fun e => if e.source.holds then e.quantity.val else 0).sum := by
    refine (sum_labels Entry.source (·.quantity.val) hn es).trans ?_
    exact congrArg List.sum (List.map_congr_left fun e he => by simp only [hsource e he])
  have hreceived : (sides.map fun s => received es s).sum =
      (es.map fun e => if e.target.holds then e.quantity.val else 0).sum := by
    refine (sum_labels Entry.target (·.quantity.val) hn es).trans ?_
    exact congrArg List.sum (List.map_congr_left fun e he => by simp only [htarget e he])
  -- the books agree on each of these sides, so they agree on the sum
  have hsum := congrArg List.sum (List.map_congr_left fun s hs => h.sides s (hholds s hs))
  rw [List.sum_map_add, List.sum_map_add, hgiven, hreceived, sum_holding hn hold,
    sum_holding hn hnew] at hsum
  omega

end Game
end Watershed
