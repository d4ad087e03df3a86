import Watershed.Proofs.Distribution.Shares

namespace Watershed.Distribution.Tiered

theorem flatten_cut (l : List Parcel) : (cut l).flatten = l := by
  induction l using cut.induct with
  | case1 => rw [cut, List.flatten_nil]
  | case2 top rest ih =>
    rw [cut, List.flatten_cons, ih, List.cons_append, List.takeWhile_append_dropWhile]

theorem flatten_tiers (parcels : Roll Parcel) : (tiers parcels).flatten.Perm parcels.toList := by
  rw [tiers, flatten_cut]
  exact List.mergeSort_perm _ _

def evenly (each : Count) (tier : List Parcel) : Amounts := tier.map fun p => (p, each)

theorem listed_evenly (each : Count) (tier : List Parcel) :
    (evenly each tier).listed = tier.map fun p => (p.id, each) := by
  rw [Amounts.listed, evenly, List.map_map]
  rfl

theorem fst_evenly (each : Count) (tier : List Parcel) : (evenly each tier).map (·.1) = tier := by
  rw [evenly, List.map_map]
  exact List.map_id tier

theorem whole_evenly (each : Count) (tier : List Parcel) :
    (evenly each tier).whole = tier.length * each.val := by
  rw [Amounts.whole, evenly, List.map_map]
  simp [Function.comp_def]

theorem whole_evenly_le (cap remaining : Count) (tier : List Parcel) :
    (evenly (min (remaining.quot tier.length) cap) tier).whole ≤ remaining.val := by
  rw [whole_evenly, Count.val_min, Count.val_quot]
  exact (Nat.mul_le_mul_left _ (Nat.min_le_left _ _)).trans (Nat.mul_div_le _ _)

def poured (cap remaining : Count) : List (List Parcel) → Amounts
  | [] => []
  | tier :: rest =>
    evenly (min (remaining.quot tier.length) cap) tier ++
      if remaining.quot tier.length < cap then []
      else poured cap (.below (remaining.val - cap.val * tier.length) remaining (Nat.sub_le ..)) rest

variable {cap remaining water : Count} {b : Board}

theorem min_of_full {tier : List Parcel} (h : ¬ remaining.quot tier.length < cap) :
    min (remaining.quot tier.length) cap = cap := by
  apply Count.ext
  rw [Count.val_min]
  exact Nat.min_eq_right (Nat.not_lt.mp h)

theorem whole_poured_le (cap remaining : Count) (ts : List (List Parcel)) :
    (poured cap remaining ts).whole ≤ remaining.val := by
  induction ts generalizing remaining with
  | nil => exact Nat.zero_le _
  | cons tier ts ih =>
    have htier := whole_evenly_le cap remaining tier
    rw [poured, Amounts.whole_append]
    split
    · exact htier
    · rename_i hfull
      rw [min_of_full hfull, whole_evenly, Nat.mul_comm] at htier ⊢
      refine (Nat.add_le_add_left (ih _) _).trans ?_
      exact (Nat.add_sub_cancel' htier).le

theorem poured_le {ts : List (List Parcel)} {x : Parcel × Count}
    (hx : x ∈ poured cap remaining ts) : x.2.val ≤ cap.val := by
  induction ts generalizing remaining with
  | nil => cases hx
  | cons tier ts ih =>
    rw [poured, List.mem_append] at hx
    rcases hx with hx | hx
    · obtain ⟨q, _, rfl⟩ := List.mem_map.mp hx
      rw [Count.val_min]
      exact Nat.min_le_right _ _
    · split at hx
      · cases hx
      · exact ih hx

theorem fst_poured (cap remaining : Count) (ts : List (List Parcel)) :
    ((poured cap remaining ts).map (·.1)).Sublist ts.flatten := by
  induction ts generalizing remaining with
  | nil => exact List.Sublist.refl _
  | cons tier ts ih =>
    rw [poured, List.map_append, fst_evenly, List.flatten_cons]
    refine List.Sublist.append_left ?_ tier
    split
    · exact List.nil_sublist _
    · exact ih _

theorem exists_fill? (cap : Count) {s : Shares} (ts : List (List Parcel))
    (h : ∀ p, (s.of p).val + remaining.val < 18446744073709551616) :
    ∃ s', fill? cap remaining s ts = some ((poured cap remaining ts).listed, s') ∧
      (∀ p, (s'.of p).val = (s.of p).val + (poured cap remaining ts).named p) ∧
      ∀ p, s.contains p = true → s'.contains p = true := by
  induction ts generalizing remaining s with
  | nil => exact ⟨s, rfl, fun _ => rfl, fun _ hp => hp⟩
  | cons tier ts ih =>
    obtain ⟨each, heach⟩ : ∃ n, n = min (remaining.quot tier.length) cap := ⟨_, rfl⟩
    have htier := whole_evenly_le cap remaining tier
    rw [← heach] at htier
    have hnamed : ∀ p, (evenly each tier).named p ≤ remaining.val := fun p =>
      ((evenly each tier).named_le_whole p).trans htier
    obtain ⟨s₁, hs⟩ := Shares.exists_foldlM (fun q => (q, each)) (l := tier) (s := s) fun p =>
      (Nat.add_le_add_left (hnamed p) _).trans_lt (h p)
    have hof : ∀ p, (s₁.of p).val = (s.of p).val + (evenly each tier).named p :=
      Shares.of_foldlM (fun q => (q, each)) hs
    have hcontains : ∀ p, s.contains p = true → s₁.contains p = true :=
      fun p => Shares.contains_foldlM (fun q => (q, each)) hs
    rw [whole_evenly, Nat.mul_comm] at htier
    obtain ⟨used, hused⟩ := Count.exists_ofNat? (htier.trans_lt remaining.val_lt)
    have hval := Count.ofNat?_eq_some.mp hused
    simp only [fill?, poured, ← heach, Option.bind_eq_bind, hs, hused, Option.bind_some]
    split
    · rw [List.append_nil]
      exact ⟨s₁, by rw [listed_evenly], hof, hcontains⟩
    · rename_i hfull
      rw [min_of_full hfull] at heach
      have hrest : remaining.subDownTo used =
          .below (remaining.val - cap.val * tier.length) remaining (Nat.sub_le ..) := by
        apply Count.ext
        rw [Count.val_subDownTo, ← hval, heach]
        rfl
      have hroom : ∀ p, (s₁.of p).val + (remaining.subDownTo used).val < 18446744073709551616 := by
        intro p
        have hp := h p
        have hle := (evenly each tier).named_le_whole p
        rw [whole_evenly, Nat.mul_comm] at hle
        rw [hof, Count.val_subDownTo]
        omega
      rw [hrest] at hroom ⊢
      obtain ⟨s₂, hfill, hof', hcontains'⟩ := ih hroom
      refine ⟨s₂, ?_, fun p => ?_, fun p hp => hcontains' p (hcontains p hp)⟩
      · rw [hfill, Option.bind_some, Amounts.listed_append, listed_evenly]
      · rw [hof', hof, Amounts.named_append, Nat.add_assoc]

theorem exists_distribute? (cap : Count) (b : Board) (water : Count) :
    ∃ d, distribute? cap b water = some d ∧ Laid b d (poured cap water (tiers b.parcels)) ∧
      ∀ p ∈ b.players.toList, d.shares.contains p.id = true := by
  have hroom : ∀ p, ((Shares.zero b.players).of p).val + water.val < 18446744073709551616 := by
    intro p
    rw [Shares.of_zero]
    exact (Nat.zero_add _).trans_lt water.val_lt
  obtain ⟨shares, hfill, hof, hcontains⟩ := exists_fill? cap (tiers b.parcels) hroom
  have hperm := flatten_tiers b.parcels
  have hsub := fst_poured cap water (tiers b.parcels)
  refine ⟨_, Option.bind_eq_some_iff.mpr ⟨_, hfill, rfl⟩,
    ⟨⟨rfl, rfl, fun x hx => ?_, ?_⟩, fun p _ => ?_⟩, fun p hp => hcontains _ (Shares.contains_zero hp)⟩
  · exact hperm.mem_iff.mp (hsub.subset (List.mem_map_of_mem hx))
  · have hids : ((tiers b.parcels).flatten.map (·.id)).Nodup :=
      (hperm.map _).nodup_iff.mpr (Roll.nodup_keys b.parcels)
    have h := (hsub.map (·.id)).nodup hids
    rwa [List.map_map] at h
  · have hp := hof p.id
    rw [Shares.of_zero] at hp
    exact hp.trans (Nat.zero_add _)

theorem laid {d : Distribution} (h : distribute? cap b water = some d) :
    Laid b d (poured cap water (tiers b.parcels)) := by
  obtain ⟨d', h', hl, _⟩ := exists_distribute? cap b water
  obtain rfl := Option.some.inj (h.symm.trans h')
  exact hl

end Watershed.Distribution.Tiered
