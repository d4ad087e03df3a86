import Watershed.Proofs.Allocation.Order
import Mathlib.Data.List.Perm.Subperm

namespace Watershed.Allocation

variable {home : ParcelId} {pool : Plan}

theorem total_le_of_sublist {l s : List (ParcelId × Count)} (h : s.Sublist l)
    (hl : l.Pairwise fun x y => y.2.val ≤ x.2.val) :
    Count.total (s.map (·.2)) ≤ Count.total ((l.take s.length).map (·.2)) := by
  induction l generalizing s with
  | nil =>
    rw [List.sublist_nil.mp h]
    exact Nat.le_refl _
  | cons x l ih =>
    obtain ⟨hx, hl⟩ := List.pairwise_cons.mp hl
    cases s with
    | nil => exact Nat.zero_le _
    | cons y s =>
      have hy : y.2.val ≤ x.2.val := by
        rcases List.mem_cons.mp (h.subset List.mem_cons_self) with rfl | hy
        · exact Nat.le_refl _
        · exact hx y hy
      have hs : Count.total (s.map (·.2)) ≤ Count.total ((l.take s.length).map (·.2)) := ih h.tail hl
      simp only [List.length_cons, List.take_succ_cons, List.map_cons, Count.total]
      omega

theorem length_emptyInTurn_le {n : Count} {l : List (ParcelId × Count)} {k : Nat}
    (h : n.val ≤ Count.total ((l.take k).map (·.2))) : (emptyInTurn n l).length ≤ k := by
  induction l generalizing n k with
  | nil => exact Nat.zero_le _
  | cons x l ih =>
    by_cases hn : n = 0
    · rw [hn, emptyInTurn_zero]
      exact Nat.zero_le _
    · have hpos := Count.pos_of_ne hn
      cases k with
      | zero =>
        simp only [List.take_zero, List.map_nil, Count.total] at h
        omega
      | succ k =>
        simp only [List.take_succ_cons, List.map_cons, Count.total] at h
        rw [emptyInTurn_cons hn, List.length_cons]
        refine Nat.succ_le_succ (ih ?_)
        simp only [Count.val_subDownTo, Count.val_min]
        omega

theorem dropLast_emptyInTurn (n : Count) (l : List (ParcelId × Count)) :
    ∀ y ∈ (emptyInTurn n l).dropLast, y ∈ l := by
  induction l generalizing n with
  | nil => simp [emptyInTurn]
  | cons x l ih =>
    intro y hy
    by_cases hn : n = 0
    · rw [hn, emptyInTurn_zero] at hy
      cases hy
    · rw [emptyInTurn_cons hn] at hy
      cases hrest : emptyInTurn (n.subDownTo (min x.2 n)) l with
      | nil =>
        rw [hrest] at hy
        cases hy
      | cons z rest =>
        have hfull : min x.2 n = x.2 := by
          by_contra hne
          have hzero : n.subDownTo (min x.2 n) = 0 := Count.ext (by
            have hval : min x.2.val n.val ≠ x.2.val := fun e =>
              hne (Count.ext (by rw [Count.val_min, e]))
            simp only [Count.val_subDownTo, Count.val_min, Count.val_zero]
            omega)
          rw [hzero, emptyInTurn_zero] at hrest
          cases hrest
        rw [hrest, List.dropLast_cons_of_ne_nil (by simp), ← hrest, hfull] at hy
        rcases List.mem_cons.mp hy with rfl | hy
        · exact List.mem_cons_self
        · exact List.mem_cons_of_mem x (ih _ y hy)

theorem fst_emptyInTurn (n : Count) (l : List (ParcelId × Count)) :
    ∀ y ∈ emptyInTurn n l, ∃ x ∈ l, x.1 = y.1 := by
  induction l generalizing n with
  | nil => simp [emptyInTurn]
  | cons x l ih =>
    intro y hy
    by_cases hn : n = 0
    · rw [hn, emptyInTurn_zero] at hy
      cases hy
    · rw [emptyInTurn_cons hn] at hy
      rcases List.mem_cons.mp hy with rfl | hy
      · exact ⟨x, List.mem_cons_self, rfl⟩
      · obtain ⟨z, hz, hk⟩ := ih _ y hy
        exact ⟨z, List.mem_cons_of_mem x hz, hk⟩

def away (home : ParcelId) (l : List (ParcelId × Count)) : List (ParcelId × Count) :=
  l.filter fun x => x.1 ≠ home

theorem total_split (home : ParcelId) (l : List (ParcelId × Count)) :
    Count.total (l.map (·.2)) = amountAt l home + Count.total ((away home l).map (·.2)) := by
  induction l with
  | nil => rfl
  | cons x l ih =>
    rw [List.map_cons, Count.total, ih, amountAt_cons]
    by_cases hx : x.1 = home
    · have haway : away home (x :: l) = away home l := List.filter_cons_of_neg (by simp [hx])
      rw [if_pos hx, haway, Nat.add_assoc]
    · have haway : away home (x :: l) = x :: away home l := List.filter_cons_of_pos (by simp [hx])
      rw [if_neg hx, haway, List.map_cons, Count.total]
      omega

theorem amountAt_homeDraw (pool : Plan) (home : ParcelId) (required : Count) :
    amountAt (homeDraw pool home required) home = min (pool.on home).val required.val := by
  rw [homeDraw]
  split
  · rename_i h
    rw [amountAt_nil, ← Count.val_min, h, Count.val_zero]
  · rw [amountAt_cons, if_pos rfl, amountAt_nil, Count.val_min, Nat.add_zero]

theorem amountAt_orderedDraws (pool : Plan) (home : ParcelId) (required : Count) :
    amountAt (orderedDraws pool home required) home = min (pool.on home).val required.val := by
  rw [orderedDraws, amountAt_append, amountAt_homeDraw,
    amountAt_of_not_mem fun y hy => ?_, Nat.add_zero]
  obtain ⟨x, hx, hk⟩ := fst_emptyInTurn _ _ y hy
  exact hk ▸ (mem_sources.mp hx).2.1

theorem total_away_le {required : Count} {l : List (ParcelId × Count)}
    (h : Drawn pool required l) :
    Count.total ((away home l).map (·.2)) ≤
      Count.total (((sources pool home).take (away home l).length).map (·.2)) := by
  let full := (away home l).map fun x => (x.1, pool.on x.1)
  have hids : full.map (·.1) = (away home l).map (·.1) := List.map_map
  have hnodup : full.Nodup := by
    refine List.Nodup.of_map (·.1) ?_
    rw [hids]
    exact (List.filter_sublist.map _).nodup h.nodup
  have hsub : full ⊆ sources pool home := by
    intro y hy
    obtain ⟨x, hx, rfl⟩ := List.mem_map.mp hy
    obtain ⟨hx, hne⟩ := List.mem_filter.mp hx
    have hpos := h.pos x hx
    have hwithin := h.within x hx
    refine mem_sources.mpr ⟨Plan.mem_of_on_pos (by omega), by simpa using hne, fun e => ?_⟩
    have hz : (pool.on x.1).val = 0 := congrArg Count.val e
    omega
  obtain ⟨s, hperm, hs⟩ := List.subperm_of_subset hnodup hsub
  have hdesc : (sources pool home).Pairwise fun x y => y.2.val ≤ x.2.val := by
    refine (sources_pairwise pool home).imp fun hxy => ?_
    simp only [richerFirst, Bool.or_eq_true, Bool.and_eq_true, decide_eq_true_eq] at hxy
    omega
  have hlen : s.length = (away home l).length := hperm.length_eq.trans (List.length_map _)
  calc Count.total ((away home l).map (·.2))
      ≤ Count.total (full.map (·.2)) := by
        rw [Count.total_map, Count.total_map, List.map_map]
        exact List.sum_le_sum fun x hx => h.within x (List.mem_filter.mp hx).1
    _ = Count.total (s.map (·.2)) := by
        rw [Count.total_map, Count.total_map]
        exact (hperm.symm.map _).sum_eq
    _ ≤ Count.total (((sources pool home).take s.length).map (·.2)) := total_le_of_sublist hs hdesc
    _ = _ := by rw [hlen]

theorem length_homeDraw_le {required : Count} {l : List (ParcelId × Count)}
    (h : amountAt l home = min (pool.on home).val required.val) :
    (homeDraw pool home required).length + (away home l).length ≤ l.length := by
  have hle : (away home l).length ≤ l.length := List.length_filter_le _ _
  rw [homeDraw]
  split
  · rw [List.length_nil]
    omega
  · rename_i hne
    have hpos := Count.pos_of_ne hne
    rw [Count.val_min, ← h] at hpos
    have hhome : ∃ x ∈ l, x.1 = home := by
      by_contra hnone
      rw [amountAt_of_not_mem fun x hx e => hnone ⟨x, hx, e⟩] at hpos
      exact Nat.lt_irrefl 0 hpos
    obtain ⟨x, hx, hxhome⟩ := hhome
    have hlt : (away home l).length < l.length :=
      List.length_filter_lt_length_iff_exists.mpr ⟨x, hx, by simp [hxhome]⟩
    rw [List.length_singleton]
    omega

structure Frugal (pool : Plan) (home : ParcelId) (required : Count) (l : List (ParcelId × Count)) :
    Prop where
  drawn : Drawn pool required l
  emptied : ∀ x ∈ l.dropLast, x.1 ≠ home → x.2 = pool.on x.1
  fewest : ∀ other, Drawn pool required other → amountAt other home = amountAt l home →
    l.length ≤ other.length

theorem orderedDraws_emptied {required : Count} :
    ∀ x ∈ (orderedDraws pool home required).dropLast, x.1 ≠ home → x.2 = pool.on x.1 := by
  intro x hx hne
  have hhome : ∀ y ∈ homeDraw pool home required, y.1 = home := by
    rw [homeDraw]
    split <;> simp
  rw [orderedDraws] at hx
  cases hrest : emptyInTurn (beyondHome pool home required) (sources pool home) with
  | nil =>
    rw [hrest, List.append_nil] at hx
    exact absurd (hhome x (List.dropLast_subset _ hx)) hne
  | cons y rest =>
    rw [List.dropLast_append_of_ne_nil (by simp [hrest])] at hx
    rcases List.mem_append.mp hx with hx | hx
    · exact absurd (hhome x hx) hne
    · exact (Plan.on_of_mem (mem_sources.mp (dropLast_emptyInTurn _ _ x hx)).1).symm

theorem orderedDraws_fewest {required : Count} {other : List (ParcelId × Count)}
    (h : Drawn pool required other)
    (hsame : amountAt other home = amountAt (orderedDraws pool home required) home) :
    (orderedDraws pool home required).length ≤ other.length := by
  rw [amountAt_orderedDraws] at hsame
  have hsplit := total_split home other
  rw [h.total, hsame] at hsplit
  have hbeyond := val_beyondHome pool home required
  have hrest : (emptyInTurn (beyondHome pool home required) (sources pool home)).length ≤
      (away home other).length :=
    length_emptyInTurn_le (Nat.le_trans (by omega) (total_away_le h))
  have hhome := length_homeDraw_le hsame
  rw [orderedDraws, List.length_append]
  omega

theorem drawn_in_order (pool : Plan) (home : ParcelId) (required : Count) :
    (∀ spare, (Drawing.start pool home required).run home (pool.size + 1 + spare) =
      some (draw pool home required)) ∧
    (sources pool home).Pairwise (fun x y => richerFirst x y = true) ∧
    (∀ x, x ∈ sources pool home ↔ x ∈ pool.toList ∧ x.1 ≠ home ∧ x.2 ≠ 0) ∧
    if pool.water < required.val then
      draw pool home required = .error (.clamp (required.val - pool.water))
    else
      draw pool home required = .ok (orderedDraws pool home required) ∧
        Frugal pool home required (orderedDraws pool home required) := by
  have hdraw := draw_eq_ordered pool home required
  refine ⟨fun spare => run_start pool home required (by omega), sources_pairwise pool home,
    fun x => mem_sources, ?_⟩
  split
  · rename_i hlt
    rw [hdraw, if_pos hlt]
  · rename_i hlt
    rw [if_neg hlt] at hdraw
    exact ⟨hdraw, draw_eq_ok hdraw, orderedDraws_emptied, fun _ => orderedDraws_fewest⟩

end Watershed.Allocation
