import Watershed.Proofs.Distribution.Progress

namespace Watershed.Distribution

def SharesRise (b : Board) (d d' : Distribution) : Prop :=
  ∀ p ∈ b.players.toList, ∃ n n' : Count, d.shares.find? p.id = some (p.id, n) ∧
    d'.shares.find? p.id = some (p.id, n') ∧ n.val ≤ n'.val

def ParcelsRise (b : Board) (d d' : Distribution) : Prop :=
  ∀ q ∈ b.parcels.toList, ∃ n n' : Nat, d.Lays q n ∧ d'.Lays q n' ∧ n ≤ n'

def SharesFollowEntitlements (b : Board) (d : Distribution) : Prop :=
  ∀ p ∈ b.players.toList, ∀ p' ∈ b.players.toList, p.entitlement.val ≤ p'.entitlement.val →
    ∃ n n' : Count, d.shares.find? p.id = some (p.id, n) ∧
      d.shares.find? p'.id = some (p'.id, n') ∧ n.val ≤ n'.val

variable {b : Board} {d d' : Distribution} {water water' : Count}

section Tabulated

variable {s s' : Player → Count}

theorem sharesRise_of_tabulate (h : d.shares = b.players.tabulate s)
    (h' : d'.shares = b.players.tabulate s')
    (hle : ∀ p ∈ b.players.toList, (s p).val ≤ (s' p).val) : SharesRise b d d' := by
  intro p hp
  exact ⟨s p, s' p, h ▸ Shares.find?_tabulate hp, h' ▸ Shares.find?_tabulate hp, hle p hp⟩

theorem sharesFollow_of_tabulate (h : d.shares = b.players.tabulate s)
    (hle : ∀ p ∈ b.players.toList, ∀ p' ∈ b.players.toList,
      p.entitlement.val ≤ p'.entitlement.val → (s p).val ≤ (s p').val) :
    SharesFollowEntitlements b d := by
  intro p hp p' hp' he
  exact ⟨s p, s p', h ▸ Shares.find?_tabulate hp, h ▸ Shares.find?_tabulate hp', hle p hp p' hp' he⟩

end Tabulated

section Laying

variable {amounts amounts' : Amounts}

theorem Poured.parcelsRise (h : Poured b d amounts) (h' : Poured b d' amounts')
    (hle : ∀ q ∈ b.parcels.toList, amountAt amounts.listed q.id ≤ amountAt amounts'.listed q.id) :
    ParcelsRise b d d' := by
  intro q hq
  exact ⟨_, _, h.lays hq, h'.lays hq, hle q hq⟩

theorem Laid.sharesRise (h : Laid b d amounts) (h' : Laid b d' amounts')
    (hc : ∀ p ∈ b.players.toList, d.shares.contains p.id = true)
    (hc' : ∀ p ∈ b.players.toList, d'.shares.contains p.id = true)
    (hle : ∀ q ∈ b.parcels.toList, amountAt amounts.listed q.id ≤ amountAt amounts'.listed q.id) :
    SharesRise b d d' := by
  intro p hp
  refine ⟨_, _, Shares.find?_of_contains (hc p hp), Shares.find?_of_contains (hc' p hp), ?_⟩
  rw [h.share_eq hp, h'.share_eq hp, h.sum_owned, h'.sum_owned]
  refine List.sum_le_sum fun q hq => ?_
  split
  · exact hle q hq
  · exact Nat.le_refl 0

end Laying

namespace Fair

theorem sharesRise (b : Board) (h : water.val ≤ water'.val) :
    ∃ r r', Distributor.fair.distribute b water = .ok r ∧
      Distributor.fair.distribute b water' = .ok r' ∧ SharesRise b r r' := by
  obtain ⟨r, hr, _, hs⟩ := exists_distribute? b water
  obtain ⟨r', hr', _, hs'⟩ := exists_distribute? b water'
  refine ⟨r, r', Distributor.fair_ok hr, Distributor.fair_ok hr', ?_⟩
  refine sharesRise_of_tabulate hs hs' fun p hp => ?_
  rw [val_share hp, val_share hp]
  exact dueUp_mono _ h (Nat.le_refl _)

theorem sharesFollow (b : Board) (water : Count) :
    ∃ r, Distributor.fair.distribute b water = .ok r ∧ SharesFollowEntitlements b r := by
  obtain ⟨r, hr, _, hs⟩ := exists_distribute? b water
  refine ⟨r, Distributor.fair_ok hr, sharesFollow_of_tabulate hs fun p hp p' hp' he => ?_⟩
  rw [val_share hp, val_share hp']
  exact dueUp_mono _ (Nat.le_refl _) he

end Fair

namespace PlayerOnly

theorem sharesRise (b : Board) (h : water.val ≤ water'.val) :
    ∃ r r', Distributor.playerOnly.distribute b water = .ok r ∧
      Distributor.playerOnly.distribute b water' = .ok r' ∧ SharesRise b r r' := by
  have hr := Distributor.playerOnly_ok (distribute?_eq b water)
  have hr' := Distributor.playerOnly_ok (distribute?_eq b water')
  refine ⟨_, _, hr, hr', sharesRise_of_tabulate rfl rfl fun p hp => ?_⟩
  rw [val_share hp, val_share hp]
  exact due_mono _ h (Nat.le_refl _)

theorem sharesFollow (b : Board) (water : Count) :
    ∃ r, Distributor.playerOnly.distribute b water = .ok r ∧ SharesFollowEntitlements b r := by
  have hr := Distributor.playerOnly_ok (distribute?_eq b water)
  refine ⟨_, hr, sharesFollow_of_tabulate rfl fun p hp p' hp' he => ?_⟩
  rw [val_share hp, val_share hp']
  exact due_mono _ (Nat.le_refl _) he

end PlayerOnly

namespace PerParcel

theorem amountAt_mono (h : Poured b d (amounts b water)) (h' : Poured b d' (amounts b water'))
    (hw : water.val ≤ water'.val) {q : Parcel} (hq : q ∈ b.parcels.toList) :
    amountAt (amounts b water).listed q.id ≤ amountAt (amounts b water').listed q.id := by
  have hon : amountAt (amounts b water).listed q.id = (amount b water q).val :=
    h.amount_of_mem (List.mem_map_of_mem hq)
  have hon' : amountAt (amounts b water').listed q.id = (amount b water' q).val :=
    h'.amount_of_mem (List.mem_map_of_mem hq)
  rw [hon, hon', val_amount hq, val_amount hq]
  split
  · exact due_mono _ hw (Nat.le_refl _)
  · exact Nat.le_refl 0

theorem rises (b : Board) (h : water.val ≤ water'.val) :
    ∃ r r', Distributor.perParcel.distribute b water = .ok r ∧
      Distributor.perParcel.distribute b water' = .ok r' ∧ SharesRise b r r' ∧
      ParcelsRise b r r' := by
  obtain ⟨r, hr, hl, _, hc⟩ := exists_distribute? b water
  obtain ⟨r', hr', hl', _, hc'⟩ := exists_distribute? b water'
  have hle : ∀ q ∈ b.parcels.toList,
      amountAt (amounts b water).listed q.id ≤ amountAt (amounts b water').listed q.id :=
    fun q hq => amountAt_mono hl.toPoured hl'.toPoured h hq
  exact ⟨r, r', Distributor.perParcel_ok hr, Distributor.perParcel_ok hr',
    hl.sharesRise hl' hc hc' hle, hl.parcelsRise hl'.toPoured hle⟩

end PerParcel

namespace Tiered

variable {remaining remaining' : Count}

theorem amountAt_evenly_mono {each each' : Count} (h : each.val ≤ each'.val) (tier : List Parcel)
    (id : ParcelId) :
    amountAt (evenly each tier).listed id ≤ amountAt (evenly each' tier).listed id := by
  rw [listed_evenly, listed_evenly, amountAt, amountAt, List.map_map, List.map_map]
  refine List.sum_le_sum fun q _ => ?_
  dsimp only [Function.comp]
  split
  · exact h
  · exact Nat.le_refl 0

theorem amountAt_poured_mono (cap : Count) (h : remaining.val ≤ remaining'.val)
    (ts : List (List Parcel)) (id : ParcelId) :
    amountAt (poured cap remaining ts).listed id ≤
      amountAt (poured cap remaining' ts).listed id := by
  induction ts generalizing remaining remaining' with
  | nil => exact Nat.le_refl 0
  | cons tier ts ih =>
    have heven : (remaining.quot tier.length).val ≤ (remaining'.quot tier.length).val :=
      Nat.div_le_div_right h
    have heach : (min (remaining.quot tier.length) cap).val ≤
        (min (remaining'.quot tier.length) cap).val := by
      rw [Count.val_min, Count.val_min]
      exact min_le_min_right _ heven
    have htier := amountAt_evenly_mono heach tier id
    rw [poured, poured, Amounts.listed_append, Amounts.listed_append, amountAt_append,
      amountAt_append]
    by_cases hshort : remaining.quot tier.length < cap
    · rw [if_pos hshort]
      exact htier.trans (Nat.le_add_right _ _)
    · have hfull : ¬ remaining'.quot tier.length < cap := fun hlt =>
        hshort (Nat.lt_of_le_of_lt heven hlt)
      rw [if_neg hshort, if_neg hfull]
      exact Nat.add_le_add htier (ih (Nat.sub_le_sub_right h _))

theorem rises (cap : Count) (b : Board) (h : water.val ≤ water'.val) :
    ∃ r r', (Distributor.tiered (some cap)).distribute b water = .ok r ∧
      (Distributor.tiered (some cap)).distribute b water' = .ok r' ∧ SharesRise b r r' ∧
      ParcelsRise b r r' := by
  obtain ⟨r, hr, hl, hc⟩ := exists_distribute? cap b water
  obtain ⟨r', hr', hl', hc'⟩ := exists_distribute? cap b water'
  have hle := fun id => amountAt_poured_mono cap h (tiers b.parcels) id
  exact ⟨r, r', Distributor.tiered_ok hr, Distributor.tiered_ok hr',
    hl.sharesRise hl' hc hc' fun q _ => hle q.id, hl.parcelsRise hl'.toPoured fun q _ => hle q.id⟩

end Tiered

theorem rain_monotone (b : Board) {water water' : Count} (h : water ≤ water') :
    (∀ d : Distributor, d.Configured → ∃ r r', d.distribute b water = .ok r ∧
      d.distribute b water' = .ok r' ∧ SharesRise b r r' ∧
      ((d = .perParcel ∨ ∃ cap, d = .tiered cap) → ParcelsRise b r r')) ∧
    ∀ d : Distributor, d = .fair ∨ d = .playerOnly → ∃ r, d.distribute b water = .ok r ∧
      SharesFollowEntitlements b r := by
  refine ⟨fun d hd => ?_, ?_⟩
  · cases d with
    | fair =>
      obtain ⟨r, r', hr, hr', hs⟩ := Fair.sharesRise b h
      exact ⟨r, r', hr, hr', hs, by simp⟩
    | perParcel =>
      obtain ⟨r, r', hr, hr', hs, hq⟩ := PerParcel.rises b h
      exact ⟨r, r', hr, hr', hs, fun _ => hq⟩
    | playerOnly =>
      obtain ⟨r, r', hr, hr', hs⟩ := PlayerOnly.sharesRise b h
      exact ⟨r, r', hr, hr', hs, by simp⟩
    | tiered cap =>
      obtain ⟨cap, rfl⟩ := Option.isSome_iff_exists.mp hd
      obtain ⟨r, r', hr, hr', hs, hq⟩ := Tiered.rises cap b h
      exact ⟨r, r', hr, hr', hs, fun _ => hq⟩
  · rintro d (rfl | rfl)
    · exact Fair.sharesFollow b water
    · exact PlayerOnly.sharesFollow b water

def terraces : Board where
  players := .ofList [⟨⟨.ofNat 1⟩, "farmer", .clamp 10, 0, .empty, 0⟩,
    ⟨⟨.ofNat 2⟩, "miller", .clamp 6, 0, .empty, 0⟩]
  parcels := .ofList [
    ⟨⟨.ofNat 3⟩, "meadow", "north", ⟨.zero, ⟨40, by decide, by decide⟩⟩, .clamp 10, 0,
      some ⟨.ofNat 1⟩, none⟩,
    ⟨⟨.ofNat 4⟩, "marsh", "south", ⟨.zero, .zero⟩, .clamp 6, 0, some ⟨.ofNat 2⟩, none⟩]

theorem terraces_rise : Count.clamp 3 ≤ Count.clamp 6 ∧
    ∃ r r', (Distributor.tiered (some (.clamp 4))).distribute terraces (.clamp 3) = .ok r ∧
      (Distributor.tiered (some (.clamp 4))).distribute terraces (.clamp 6) = .ok r' ∧
      SharesRise terraces r r' ∧ ParcelsRise terraces r r' := by
  have hle : Count.clamp 3 ≤ Count.clamp 6 := by decide
  obtain ⟨r, r', hr, hr', hs, hq⟩ :=
    (rain_monotone terraces hle).1 (.tiered (some (.clamp 4))) rfl
  exact ⟨hle, r, r', hr, hr', hs, hq (.inr ⟨_, rfl⟩)⟩

end Watershed.Distribution
