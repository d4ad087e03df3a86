import Watershed.Proofs.Allocation.Draw

namespace Watershed.Allocation

def richerFirst (x y : ParcelId × Count) : Bool :=
  y.2.val < x.2.val || (x.2.val = y.2.val && x.1.uuid.val ≤ y.1.uuid.val)

def isSource (home : ParcelId) (x : ParcelId × Count) : Bool := x.1 ≠ home && x.2 ≠ 0

def sources (pool : Plan) (home : ParcelId) : List (ParcelId × Count) :=
  (pool.toList.filter (isSource home)).mergeSort richerFirst

theorem isSource_iff {home : ParcelId} {x : ParcelId × Count} :
    isSource home x = true ↔ x.1 ≠ home ∧ x.2 ≠ 0 := by
  simp [isSource]

theorem richerFirst_trans (x y z : ParcelId × Count) (hxy : richerFirst x y = true)
    (hyz : richerFirst y z = true) : richerFirst x z = true := by
  simp only [richerFirst, Bool.or_eq_true, Bool.and_eq_true, decide_eq_true_eq] at *
  omega

theorem richerFirst_total (x y : ParcelId × Count) :
    (richerFirst x y || richerFirst y x) = true := by
  simp only [richerFirst, Bool.or_eq_true, Bool.and_eq_true, decide_eq_true_eq]
  omega

theorem richerFirst_antisymm {x y : ParcelId × Count} (hxy : richerFirst x y = true)
    (hyx : richerFirst y x = true) : x = y := by
  simp only [richerFirst, Bool.or_eq_true, Bool.and_eq_true, decide_eq_true_eq] at *
  exact Prod.ext (ParcelId.ext (by omega)) (Count.ext (by omega))

theorem mem_sources {pool : Plan} {home : ParcelId} {x : ParcelId × Count} :
    x ∈ sources pool home ↔ x ∈ pool.toList ∧ x.1 ≠ home ∧ x.2 ≠ 0 := by
  rw [sources, List.mem_mergeSort, List.mem_filter, isSource_iff]

theorem sources_pairwise (pool : Plan) (home : ParcelId) :
    (sources pool home).Pairwise fun x y => richerFirst x y = true :=
  List.pairwise_mergeSort richerFirst_trans richerFirst_total _

theorem sources_perm (pool : Plan) (home : ParcelId) :
    (sources pool home).Perm (pool.toList.filter (isSource home)) :=
  List.mergeSort_perm _ _

theorem sources_nodup (pool : Plan) (home : ParcelId) : ((sources pool home).map (·.1)).Nodup :=
  ((sources_perm pool home).map _).nodup_iff.mpr (Roll.nodup_keys_filter _ _)

theorem eq_sources {pool : Plan} {home : ParcelId} {l : List (ParcelId × Count)}
    (hnodup : l.Nodup) (hsorted : l.Pairwise fun x y => richerFirst x y = true)
    (hmem : ∀ x, x ∈ l ↔ x ∈ pool.toList ∧ x.1 ≠ home ∧ x.2 ≠ 0) : l = sources pool home := by
  have hs : (sources pool home).Nodup := List.Nodup.of_map _ (sources_nodup pool home)
  have hperm : l.Perm (sources pool home) :=
    (List.perm_ext_iff_of_nodup hnodup hs).mpr fun x => (hmem x).trans mem_sources.symm
  exact hperm.eq_of_pairwise (fun _ _ _ _ => richerFirst_antisymm) hsorted (sources_pairwise pool home)

theorem sources_put_home (pool : Plan) (home : ParcelId) (n : Count) :
    sources (pool.put (home, n)) home = sources pool home := by
  refine eq_sources (List.Nodup.of_map _ (sources_nodup _ home)) (sources_pairwise _ home) fun x => ?_
  rw [mem_sources, Roll.mem_put]
  constructor
  · rintro ⟨rfl | ⟨hx, _⟩, hne, hz⟩
    · exact absurd rfl hne
    · exact ⟨hx, hne, hz⟩
  · rintro ⟨hx, hne, hz⟩
    exact ⟨Or.inr ⟨hx, hne⟩, hne, hz⟩

theorem sources_put_dry {pool : Plan} {home : ParcelId} {x : ParcelId × Count}
    {rest : List (ParcelId × Count)} (h : sources pool home = x :: rest) :
    sources (pool.put (x.1, 0)) home = rest := by
  have hnodup := sources_nodup pool home
  have hsorted := sources_pairwise pool home
  have hx : x ∈ pool.toList := (mem_sources.mp (h ▸ List.mem_cons_self)).1
  rw [h] at hnodup hsorted
  have hnew := (List.nodup_cons.mp hnodup).1
  refine (eq_sources (List.Nodup.of_map _ (List.nodup_cons.mp hnodup).2) hsorted.tail fun y => ?_).symm
  rw [Roll.mem_put]
  constructor
  · intro hy
    obtain ⟨hpool, hne, hz⟩ := mem_sources.mp (h ▸ List.mem_cons_of_mem x hy)
    exact ⟨Or.inr ⟨hpool, fun e => hnew (List.mem_map.mpr ⟨y, hy, e⟩)⟩, hne, hz⟩
  · rintro ⟨rfl | ⟨hy, hk⟩, hne, hz⟩
    · exact absurd rfl hz
    · have hmem : y ∈ x :: rest := h ▸ mem_sources.mpr ⟨hy, hne, hz⟩
      rcases List.mem_cons.mp hmem with rfl | hmem
      · exact absurd rfl hk
      · exact hmem

theorem richest_first {home : ParcelId} {l : List (ParcelId × Count)} (hl : Ascending l)
    {x : ParcelId × Count} (h : richest home l = some x) :
    ∀ y ∈ l, isSource home y = true → richerFirst x y = true := by
  induction l generalizing x with
  | nil => cases h
  | cons z rest ih =>
    have hz : ∀ y ∈ rest, z.1.uuid.val < y.1.uuid.val :=
      fun y hy => List.rel_of_pairwise_cons hl hy
    simp only [richest] at h
    split at h
    · rename_i hrest
      split at h
      · cases h
      · cases h
        refine List.forall_mem_cons.mpr ⟨fun _ => ?_, fun y hy hsource => ?_⟩
        · simp [richerFirst]
        · rcases richest_eq_none hrest y hy with hhome | hdry
          · exact absurd hhome (isSource_iff.mp hsource).1
          · exact absurd hdry (isSource_iff.mp hsource).2
    · rename_i best hbest
      have hfirst := ih hl.tail hbest
      split at h
      · rename_i hless
        cases h
        refine List.forall_mem_cons.mpr ⟨fun hsource => ?_, hfirst⟩
        have hlt : z.2.val < x.2.val := hless.resolve_left (isSource_iff.mp hsource).1
        simp [richerFirst, hlt]
      · rename_i hmore
        cases h
        refine List.forall_mem_cons.mpr ⟨fun _ => by simp [richerFirst], fun y hy hsource => ?_⟩
        have hle : ¬ z.2.val < best.2.val := fun hlt => hmore (Or.inr hlt)
        have hlt := hz y hy
        have hby := hfirst y hy hsource
        simp only [richerFirst, Bool.or_eq_true, Bool.and_eq_true, decide_eq_true_eq] at *
        omega

theorem richest_eq_head? (pool : Plan) (home : ParcelId) :
    richest home pool.toList = (sources pool home).head? := by
  cases h : richest home pool.toList with
  | none =>
    have hnone : sources pool home = [] := by
      refine List.eq_nil_iff_forall_not_mem.mpr fun x hx => ?_
      obtain ⟨hx, hne, hz⟩ := mem_sources.mp hx
      rcases richest_eq_none h x hx with hhome | hdry
      · exact hne hhome
      · exact hz hdry
    rw [hnone, List.head?_nil]
  | some x =>
    obtain ⟨hx, hne⟩ := richest_spec h
    have hz : x.2 ≠ 0 := fun e => by
      have hpos := richest_pos h
      rw [e, Count.val_zero] at hpos
      omega
    have hmem := mem_sources.mpr ⟨hx, hne, hz⟩
    have hsorted := sources_pairwise pool home
    cases hs : sources pool home with
    | nil =>
      rw [hs] at hmem
      cases hmem
    | cons y rest =>
      rw [hs] at hmem hsorted
      obtain ⟨hy, hsource⟩ := mem_sources.mp (hs ▸ List.mem_cons_self)
      rw [List.head?_cons]
      rcases List.mem_cons.mp hmem with rfl | hmem
      · rfl
      · have hyx := List.rel_of_pairwise_cons hsorted hmem
        have hxy := richest_first pool.ascending h y hy (isSource_iff.mpr hsource)
        rw [richerFirst_antisymm hxy hyx]

end Watershed.Allocation
