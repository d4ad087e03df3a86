import Watershed.Proofs.Distribution.Progress

namespace Watershed.Distribution.Tiered

variable {cap remaining water : Count}

theorem not_nil_of_mem_cut {l tier : List Parcel} (h : tier ∈ cut l) : tier ≠ [] := by
  induction l using cut.induct with
  | case1 =>
    rw [cut] at h
    cases h
  | case2 top rest ih =>
    rw [cut, List.mem_cons] at h
    rcases h with rfl | h
    · exact List.cons_ne_nil _ _
    · exact ih h

theorem not_short_of_le {tier : List Parcel} (hne : tier ≠ [])
    (h : cap.val * tier.length ≤ remaining.val) : ¬ remaining.quot tier.length < cap := by
  rw [Count.lt_iff, Count.val_quot, Nat.not_lt]
  exact (Nat.le_div_iff_mul_le (List.length_pos_iff.mpr hne)).mpr h

theorem evenly_append (each : Count) (tier tier' : List Parcel) :
    evenly each (tier ++ tier') = evenly each tier ++ evenly each tier' := List.map_append

theorem poured_append {full : List (List Parcel)} (hne : ∀ tier ∈ full, tier ≠ [])
    (h : cap.val * full.flatten.length ≤ remaining.val) (rest : List (List Parcel)) :
    poured cap remaining (full ++ rest) = evenly cap full.flatten ++
      poured cap (.below (remaining.val - cap.val * full.flatten.length) remaining (Nat.sub_le ..))
        rest := by
  induction full generalizing remaining with
  | nil => rfl
  | cons tier full ih =>
    obtain ⟨htier, hfull⟩ := List.forall_mem_cons.mp hne
    rw [List.flatten_cons, List.length_append, Nat.mul_add] at h
    have hnot := not_short_of_le htier ((Nat.le_add_right _ _).trans h)
    rw [List.cons_append, poured, if_neg hnot, min_of_full hnot]
    rw [ih hfull (Nat.le_sub_of_add_le' h), List.flatten_cons, evenly_append, List.append_assoc]
    congr 3
    apply Count.ext
    show remaining.val - cap.val * tier.length - cap.val * full.flatten.length =
      remaining.val - cap.val * (tier ++ full.flatten).length
    rw [List.length_append, Nat.mul_add, Nat.sub_add_eq]

theorem poured_short {tier : List Parcel} {rest : List (List Parcel)}
    (h : remaining.val < cap.val * tier.length) :
    poured cap remaining (tier :: rest) = evenly (remaining.quot tier.length) tier := by
  have hlt : remaining.quot tier.length < cap := by
    rw [Count.lt_iff, Count.val_quot]
    exact Nat.div_lt_of_lt_mul (Nat.mul_comm cap.val _ ▸ h)
  have hmin : min (remaining.quot tier.length) cap = remaining.quot tier.length := by
    apply Count.ext
    rw [Count.val_min]
    exact Nat.min_eq_left (Nat.le_of_lt hlt)
  rw [poured, if_pos hlt, hmin, List.append_nil]

def Short (cap water : Count) (before : List (List Parcel)) (tier : List Parcel) : Prop :=
  (water.val : Int) - cap.val * before.flatten.length < cap.val * tier.length

theorem short_iff {before : List (List Parcel)} {tier : List Parcel} :
    Short cap water before tier ↔
      water.val < cap.val * before.flatten.length + cap.val * tier.length := by
  rw [Short]
  omega

theorem exists_first_short {ts : List (List Parcel)}
    (h : water.val < cap.val * ts.flatten.length) : ∃ before tier after,
      ts = before ++ tier :: after ∧ cap.val * before.flatten.length ≤ water.val ∧
        Short cap water before tier := by
  induction ts using List.reverseRecOn with
  | nil => simp at h
  | append_singleton ts tier ih =>
    rw [List.flatten_append, List.flatten_singleton, List.length_append, Nat.mul_add] at h
    rcases Nat.lt_or_ge water.val (cap.val * ts.flatten.length) with hlt | hle
    · obtain ⟨before, first, after, rfl, hfilled, hshort⟩ := ih hlt
      exact ⟨before, first, after ++ [tier], by simp, hfilled, hshort⟩
    · exact ⟨ts, tier, [], rfl, hle, short_iff.mpr h⟩

theorem not_short_of_filled {before : List (List Parcel)}
    (h : cap.val * before.flatten.length ≤ water.val) (pre : List (List Parcel))
    (tier : List Parcel) (post : List (List Parcel)) (hbefore : before = pre ++ tier :: post) :
    ¬ Short cap water pre tier := by
  subst hbefore
  rw [List.flatten_append, List.flatten_cons, List.length_append, List.length_append, Nat.mul_add,
    Nat.mul_add] at h
  rw [short_iff]
  omega

theorem poured_full {ts : List (List Parcel)} (hne : ∀ tier ∈ ts, tier ≠ [])
    (h : cap.val * ts.flatten.length ≤ water.val) :
    poured cap water ts = evenly cap ts.flatten := by
  have hrest := poured_append hne h []
  rwa [List.append_nil, poured, List.append_nil] at hrest

theorem poured_first_short {before : List (List Parcel)} {tier : List Parcel}
    (hne : ∀ tier ∈ before, tier ≠ []) (hfilled : cap.val * before.flatten.length ≤ water.val)
    (hshort : Short cap water before tier) (after : List (List Parcel)) : ∃ each : Count,
      each.val = (water.val - cap.val * before.flatten.length) / tier.length ∧
        poured cap water (before ++ tier :: after) =
          evenly cap before.flatten ++ evenly each tier := by
  rw [poured_append hne hfilled, poured_short]
  · exact ⟨_, rfl, rfl⟩
  · have hlt := short_iff.mp hshort
    show water.val - cap.val * before.flatten.length < _
    omega

def place (q : Parcel) : ParcelId × Coordinate := (q.id, q.position.y)

def within (top : Coordinate) (x : ParcelId × Coordinate) : Bool := top.gap x.2 ≤ range

def north (x y : ParcelId × Coordinate) : Bool :=
  y.2.val < x.2.val || (x.2.val = y.2.val && x.1.uuid.val ≤ y.1.uuid.val)

theorem cut_congr {l l' : List Parcel} (h : l.map place = l'.map place) :
    (cut l).map (List.map place) = (cut l').map (List.map place) := by
  induction l using cut.induct generalizing l' with
  | case1 =>
    obtain rfl := List.map_eq_nil_iff.mp h.symm
    rfl
  | case2 top rest ih =>
    obtain ⟨top', rest', rfl, htop, hrest⟩ := List.map_eq_cons_iff.mp h.symm
    have hjoins : ∀ p, joins p = within (place p).2 ∘ place := fun _ => rfl
    have htake : (rest.takeWhile (joins top)).map place = (rest'.takeWhile (joins top')).map place := by
      rw [hjoins, hjoins, ← List.takeWhile_map, ← List.takeWhile_map, hrest, htop]
    have hdrop : (rest.dropWhile (joins top)).map place = (rest'.dropWhile (joins top')).map place := by
      rw [hjoins, hjoins, ← List.dropWhile_map, ← List.dropWhile_map, hrest, htop]
    rw [cut, cut, List.map_cons, List.map_cons, List.map_cons, List.map_cons, htop, htake, ih hdrop]

theorem tiers_congr {r r' : Roll Parcel} (h : r.toList.map place = r'.toList.map place) :
    (tiers r).map (List.map place) = (tiers r').map (List.map place) := by
  have hsort : ∀ l : List Parcel, (l.mergeSort northFirst).map place =
      (l.map place).mergeSort north := fun _ => List.map_mergeSort fun _ _ _ _ => rfl
  exact cut_congr (by rw [hsort, hsort, h])

theorem listed_poured_congr {ts ts' : List (List Parcel)}
    (h : ts.map (List.map place) = ts'.map (List.map place)) :
    (poured cap water ts).listed = (poured cap water ts').listed := by
  induction ts generalizing water ts' with
  | nil =>
    obtain rfl := List.map_eq_nil_iff.mp h.symm
    rfl
  | cons tier ts ih =>
    obtain ⟨tier', ts', rfl, htier, hts⟩ := List.map_eq_cons_iff.mp h.symm
    have hlength : tier'.length = tier.length := by
      simpa only [List.length_map] using congrArg List.length htier
    have hids : ∀ each : Count, (evenly each tier').listed = (evenly each tier).listed := by
      intro each
      have hmap := congrArg (List.map fun x : ParcelId × Coordinate => (x.1, each)) htier
      rw [List.map_map, List.map_map] at hmap
      rw [listed_evenly, listed_evenly]
      exact hmap
    simp only [poured, Amounts.listed_append, hlength, hids]
    split
    · rfl
    · rw [ih hts.symm]

theorem waters_congr {b b' : Board} {d d' : Distribution} {amounts amounts' : Amounts}
    (h : Poured b d amounts) (h' : Poured b' d' amounts')
    (hplaces : b'.parcels.toList.map place = b.parcels.toList.map place)
    (hlisted : amounts'.listed = amounts.listed) :
    (d'.parcels.toList.map fun q => (q.id, q.water)) =
      d.parcels.toList.map fun q => (q.id, q.water) := by
  have hon : ((Plan.dry b'.parcels).putAll amounts'.listed).on =
      ((Plan.dry b.parcels).putAll amounts.listed).on := by
    funext id
    apply Count.ext
    rw [h.on_eq, h'.on_eq, hlisted]
  have hmap := congrArg (List.map fun x : ParcelId × Coordinate =>
    (x.1, ((Plan.dry b.parcels).putAll amounts.listed).on x.1)) hplaces
  rw [List.map_map, List.map_map] at hmap
  rw [h.parcels, h'.parcels, Plan.pour, Plan.pour, Roll.map, Roll.map, List.map_map, List.map_map,
    hon]
  exact hmap

theorem lays_of_short {b : Board} {d : Distribution} {before after : List (List Parcel)}
    {tier : List Parcel} {each : Count} (hts : tiers b.parcels = before ++ tier :: after)
    (h : Poured b d (evenly cap before.flatten ++ evenly each tier)) :
    (∀ q ∈ before.flatten, d.Lays q cap.val) ∧ (∀ q ∈ tier, d.Lays q each.val) ∧
      ∀ q ∈ after.flatten, d.Lays q 0 := by
  have hperm := flatten_tiers b.parcels
  rw [hts, List.flatten_append, List.flatten_cons, ← List.append_assoc] at hperm
  have hnodup := hperm.nodup_iff.mpr ((Roll.nodup_keys b.parcels).of_map _)
  refine ⟨fun q hq => ?_, fun q hq => ?_, fun q hq => ?_⟩
  · exact h.lays_of_mem (x := (q, cap)) (List.mem_append_left _ (List.mem_map_of_mem hq))
  · exact h.lays_of_mem (x := (q, each)) (List.mem_append_right _ (List.mem_map_of_mem hq))
  · have hmem : q ∈ b.parcels.toList := hperm.mem_iff.mp (List.mem_append_right _ hq)
    have hdry : ∀ x ∈ evenly cap before.flatten ++ evenly each tier, x.1 ≠ q := by
      intro x hx
      have hx : x.1 ∈ before.flatten ++ tier := by
        rw [← fst_evenly cap before.flatten, ← fst_evenly each tier, ← List.map_append]
        exact List.mem_map_of_mem hx
      exact (List.nodup_append.mp hnodup).2.2 _ hx _ hq
    exact h.amount_eq_zero hmem hdry ▸ h.lays hmem

theorem watered_by_tiers (cap : Count) (b : Board) (water : Count) :
    ∃ d, (Distributor.tiered (some cap)).distribute b water = .ok d ∧
      (cap.val * b.parcels.size ≤ water.val → ∀ q ∈ b.parcels.toList, d.Lays q cap.val) ∧
      (water.val < cap.val * b.parcels.size → ∃ before tier after,
        tiers b.parcels = before ++ tier :: after ∧
        (∀ pre first post, before = pre ++ first :: post → ¬ Short cap water pre first) ∧
        Short cap water before tier ∧
        (∀ q ∈ before.flatten, d.Lays q cap.val) ∧
        (∀ q ∈ tier,
          d.Lays q ((water.val - cap.val * before.flatten.length) / tier.length)) ∧
        ∀ q ∈ after.flatten, d.Lays q 0) ∧
      (∀ b' : Board, b'.parcels.toList.map place = b.parcels.toList.map place →
        ∃ d', (Distributor.tiered (some cap)).distribute b' water = .ok d' ∧
          (d'.parcels.toList.map fun q => (q.id, q.water)) =
            d.parcels.toList.map fun q => (q.id, q.water)) ∧
      ∀ p ∈ b.players.toList, ∃ share : Count, d.shares.find? p.id = some (p.id, share) ∧
        share.val = d.parcels.sum fun q => if q.waterOwner = some p.id then q.water.val else 0 := by
  obtain ⟨d, hd, hl, hcontains⟩ := exists_distribute? cap b water
  have hperm := flatten_tiers b.parcels
  have hsize : (tiers b.parcels).flatten.length = b.parcels.size := hperm.length_eq
  have hne : ∀ tier ∈ tiers b.parcels, tier ≠ [] := fun _ => not_nil_of_mem_cut
  refine ⟨d, Distributor.tiered_ok hd, fun hfull q hq => ?_, fun hscarce => ?_, fun b' hplaces => ?_,
    fun p hp => ⟨_, Shares.find?_of_contains (hcontains p hp), hl.share_eq hp⟩⟩
  · rw [← hsize] at hfull
    rw [poured_full hne hfull] at hl
    exact hl.lays_of_mem (x := (q, cap)) (List.mem_map_of_mem (hperm.mem_iff.mpr hq))
  · rw [← hsize] at hscarce
    obtain ⟨before, tier, after, hts, hfilled, hshort⟩ := exists_first_short hscarce
    have hbefore : ∀ first ∈ before, first ≠ [] := fun first h =>
      hne first (hts ▸ List.mem_append_left _ h)
    obtain ⟨each, heach, hpoured⟩ := poured_first_short hbefore hfilled hshort after
    rw [hts, hpoured] at hl
    exact ⟨before, tier, after, hts, not_short_of_filled hfilled, hshort,
      heach ▸ lays_of_short hts hl.toPoured⟩
  · obtain ⟨d', hd', hl', _⟩ := exists_distribute? cap b' water
    exact ⟨d', Distributor.tiered_ok hd', waters_congr hl.toPoured hl'.toPoured hplaces
      (listed_poured_congr (tiers_congr hplaces))⟩

end Watershed.Distribution.Tiered
