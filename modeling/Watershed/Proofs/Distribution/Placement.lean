import Watershed.Proofs.Distribution.Progress

namespace Watershed.Distribution.Fair

variable {b : Board} {water : Count} {owned : List Parcel}

def Foremost (owned : List Parcel) (top : Parcel) : Prop :=
  top ∈ owned ∧ ∀ q ∈ owned, q ≠ top →
    q.rights.val < top.rights.val ∨ (q.rights.val = top.rights.val ∧ top.id < q.id)

theorem foremost_of_greatest {top : Parcel} (hids : owned.Pairwise fun q q' => q.id < q'.id)
    (h : greatest owned = some top) : Foremost owned top := by
  refine ⟨greatest_mem h, fun q hq hne => ?_⟩
  rcases Nat.lt_or_eq_of_le (le_greatest h q hq) with hlt | heq
  · exact .inl hlt
  · obtain ⟨before, after, rfl, hbefore⟩ := greatest_first h
    rcases List.mem_append.mp hq with hq | hq
    · exact .inl (hbefore q hq)
    · have hafter := (List.mem_cons.mp hq).resolve_left hne
      exact .inr ⟨heq, List.rel_of_pairwise_cons (List.pairwise_append.mp hids).2.1 hafter⟩

theorem ascending_ownedBy (b : Board) (p : PlayerId) :
    (ownedBy b p).Pairwise fun q q' => q.id < q'.id :=
  b.parcels.ascending.filter _

structure Placed (d : Distribution) (owned : List Parcel) (share : Count) (top : Parcel)
    (rest : Nat) : Prop where
  foremost : Foremost owned top
  whole : (owned.map (part share owned)).sum + rest = share.val
  rest_lt : 0 < (owned.map fun q => q.rights.val).sum → rest < owned.length
  top_lays : d.Lays top (part share owned top + rest)
  lays : ∀ q ∈ owned, q ≠ top → d.Lays q (part share owned q)

theorem mem_amounts_of_owned {p : Player} (hp : p ∈ b.players.toList) {q : Parcel}
    (hq : q ∈ ownedBy b p.id) :
    (q, placed (share b water p) (ownedBy b p.id) q) ∈ amounts b water :=
  List.mem_flatMap.mpr ⟨p, hp, List.mem_map_of_mem hq⟩

theorem exists_placed {d : Distribution} (h : Poured b d (amounts b water)) {p : Player}
    (hp : p ∈ b.players.toList) (hne : ownedBy b p.id ≠ []) :
    ∃ top rest, Placed d (ownedBy b p.id) (share b water p) top rest := by
  obtain ⟨top, htop⟩ := Option.ne_none_iff_exists'.mp (mt greatest_eq_none hne)
  have hlays : ∀ q ∈ ownedBy b p.id, d.Lays q (part (share b water p) (ownedBy b p.id) q +
      if greatest (ownedBy b p.id) = some q then leftover (share b water p) (ownedBy b p.id)
      else 0) := by
    intro q hq
    rw [← val_placed _ hq]
    exact h.lays_of_mem (mem_amounts_of_owned hp hq)
  refine ⟨top, leftover (share b water p) (ownedBy b p.id),
    foremost_of_greatest (ascending_ownedBy b p.id) htop, ?_, leftover_lt _, ?_, fun q hq hq' => ?_⟩
  · exact Nat.add_sub_cancel' (sum_part_le _ _)
  · simpa only [htop, if_true] using hlays top (greatest_mem htop)
  · simpa only [htop, Option.some.injEq, hq'.symm, if_false, Nat.add_zero] using hlays q hq

theorem dry_of_no_owner {d : Distribution} (h : Poured b d (amounts b water)) {q : Parcel}
    (hq : q ∈ b.parcels.toList) (howner : ∀ p ∈ b.players.toList, q.waterOwner ≠ some p.id) :
    d.Lays q 0 := by
  have hdry : ∀ x ∈ amounts b water, x.1 ≠ q := by
    intro x hx e
    obtain ⟨p, hp, _, hown⟩ := mem_amounts hx
    exact howner p hp (e ▸ (mem_ownedBy.mp hown).2)
  exact h.amount_eq_zero hq hdry ▸ h.lays hq

theorem shares_placed (b : Board) (water : Count) :
    ∃ d, Distributor.fair.distribute b water = .ok d ∧
      (∀ p ∈ b.players.toList, ownedBy b p.id ≠ [] → ∃ share : Count,
        d.shares.find? p.id = some (p.id, share) ∧
        (d.parcels.sum fun q => if q.waterOwner = some p.id then q.water.val else 0) = share.val ∧
        ∃ top rest, Placed d (ownedBy b p.id) share top rest) ∧
      ∀ q ∈ b.parcels.toList, (∀ p ∈ b.players.toList, q.waterOwner ≠ some p.id) → d.Lays q 0 := by
  obtain ⟨d, hd, hpoured, hshares⟩ := exists_distribute? b water
  refine ⟨d, Distributor.fair_ok hd, fun p hp hne => ⟨share b water p, ?_, ?_, ?_⟩,
    fun q hq howner => dry_of_no_owner hpoured hq howner⟩
  · exact hshares ▸ Shares.find?_tabulate hp
  · rw [hpoured.named_eq, named_amounts hp, whole_spread]
    exact sum_placed _ (nodup_ownedBy b p.id) hne
  · exact exists_placed hpoured hp hne

end Watershed.Distribution.Fair
