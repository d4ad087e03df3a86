import Watershed.Proofs.Distribution.Proportional

namespace Watershed.Distribution.Fair

variable {b : Board} {water : Count}

def share (b : Board) (water : Count) (p : Player) : Count := (share? (whole b) water p).getD 0

theorem exists_share? (water : Count) {p : Player} (hp : p ∈ b.players.toList) :
    ∃ n : Count, share? (whole b) water p = some n ∧
      n.val = dueUp b.claimed water.val p.entitlement.val := by
  have hle : p.entitlement.val ≤ b.claimed := (Board.entitlement_le hp).trans (Nat.le_add_right _ _)
  simp only [share?, whole, wideSum_eq_zero, wideSum_le, Board.total_demand]
  split
  · exact ⟨0, rfl, by rw [dueUp_enough (by omega), Count.val_zero]; omega⟩
  split
  · rename_i henough
    exact ⟨p.entitlement, rfl, (dueUp_enough henough _).symm⟩
  · rename_i hshort
    rw [dueUp_short (Nat.not_le.mp hshort), ← Board.total_demand]
    rw [← Board.total_demand] at hshort
    exact proportionUp?_wideSum (Nat.not_le.mp hshort)

theorem share?_eq {p : Player} (hp : p ∈ b.players.toList) :
    share? (whole b) water p = some (share b water p) := by
  obtain ⟨n, hn, _⟩ := exists_share? water hp
  rw [share, hn, Option.getD_some]

theorem val_share {p : Player} (hp : p ∈ b.players.toList) :
    (share b water p).val = dueUp b.claimed water.val p.entitlement.val := by
  obtain ⟨n, hn, hval⟩ := exists_share? water hp
  rw [share, hn, Option.getD_some, hval]

theorem share_le (water : Count) {p : Player} (hp : p ∈ b.players.toList) :
    (share b water p).val ≤ p.entitlement.val :=
  val_share hp ▸ dueUp_le ..

theorem greatest_eq_none {l : List Parcel} (h : greatest l = none) : l = [] := by
  cases l with
  | nil => rfl
  | cons q l =>
    simp only [greatest] at h
    split at h
    · cases h
    · split at h <;> cases h

theorem le_greatest {l : List Parcel} {p : Parcel} (h : greatest l = some p) :
    ∀ q ∈ l, q.rights.val ≤ p.rights.val := by
  induction l generalizing p with
  | nil => cases h
  | cons r l ih =>
    simp only [greatest] at h
    split at h
    · rename_i hnone
      obtain rfl := Option.some.inj h
      simp [greatest_eq_none hnone]
    rename_i s hs
    have hl := ih hs
    split at h
    · rename_i hlt
      obtain rfl := Option.some.inj h
      exact List.forall_mem_cons.mpr ⟨Nat.le_of_lt hlt, hl⟩
    · rename_i hge
      obtain rfl := Option.some.inj h
      have hle := Nat.not_lt.mp hge
      exact List.forall_mem_cons.mpr ⟨Nat.le_refl _, fun q hq => (hl q hq).trans hle⟩

theorem greatest_first {l : List Parcel} {p : Parcel} (h : greatest l = some p) :
    ∃ before after, l = before ++ p :: after ∧ ∀ q ∈ before, q.rights.val < p.rights.val := by
  induction l generalizing p with
  | nil => cases h
  | cons r l ih =>
    simp only [greatest] at h
    split at h
    · obtain rfl := Option.some.inj h
      exact ⟨[], l, rfl, by simp⟩
    rename_i s hs
    split at h
    · rename_i hlt
      obtain rfl := Option.some.inj h
      obtain ⟨before, after, rfl, hbefore⟩ := ih hs
      exact ⟨r :: before, after, rfl, List.forall_mem_cons.mpr ⟨hlt, hbefore⟩⟩
    · obtain rfl := Option.some.inj h
      exact ⟨[], l, rfl, by simp⟩

theorem greatest_mem {l : List Parcel} {p : Parcel} (h : greatest l = some p) : p ∈ l := by
  obtain ⟨before, after, rfl, _⟩ := greatest_first h
  exact List.mem_append_right _ List.mem_cons_self

def part (share : Count) (owned : List Parcel) (q : Parcel) : Nat :=
  q.rights.val * share.val / (owned.map fun q => q.rights.val).sum

def leftover (share : Count) (owned : List Parcel) : Nat :=
  share.val - (owned.map (part share owned)).sum

def placed (share : Count) (owned : List Parcel) (q : Parcel) : Count :=
  Count.clamp (part share owned q + if greatest owned = some q then leftover share owned else 0)

variable {owned : List Parcel} {q : Parcel}

theorem sum_part_le (share : Count) (owned : List Parcel) :
    (owned.map (part share owned)).sum ≤ share.val :=
  sum_parts_le (fun q : Parcel => q.rights.val) share.val owned

theorem part_add_leftover_le (share : Count) (hq : q ∈ owned) :
    part share owned q + leftover share owned ≤ share.val := by
  have hle := sum_part_le share owned
  have hpart : part share owned q ≤ (owned.map (part share owned)).sum :=
    List.le_sum_of_mem (List.mem_map_of_mem hq)
  rw [leftover]
  omega

theorem leftover_lt (share : Count) (hw : 0 < (owned.map fun q => q.rights.val).sum) :
    leftover share owned < owned.length := by
  have hlt := lt_sum_parts_add (fun q : Parcel => q.rights.val) share.val hw
  have hle := sum_part_le share owned
  have hparts : (owned.map (part share owned)).sum =
    (owned.map fun q => q.rights.val * share.val / (owned.map fun q => q.rights.val).sum).sum := rfl
  rw [leftover]
  omega

theorem val_placed (share : Count) (hq : q ∈ owned) :
    (placed share owned q).val =
      part share owned q + if greatest owned = some q then leftover share owned else 0 := by
  have hle := part_add_leftover_le share hq
  have hlt := share.val_lt
  rw [placed, Count.val_clamp]
  split <;> omega

theorem val_placed_of_greatest (share : Count) (hids : (owned.map (·.id)).Nodup) {top : Parcel}
    (htop : greatest owned = some top) (hq : q ∈ owned) :
    (placed share owned q).val =
      part share owned q + if q.id = top.id then leftover share owned else 0 := by
  have hiff : greatest owned = some q ↔ q.id = top.id := by
    rw [htop, Option.some.injEq]
    exact ⟨fun e => e ▸ rfl, fun e => (List.inj_on_of_nodup_map hids hq (greatest_mem htop) e).symm⟩
  simp only [val_placed share hq, hiff]

theorem sum_placed (share : Count) (hids : (owned.map (·.id)).Nodup) (hne : owned ≠ []) :
    (owned.map fun q => (placed share owned q).val).sum = share.val := by
  obtain ⟨top, htop⟩ := Option.ne_none_iff_exists'.mp (mt greatest_eq_none hne)
  rw [List.map_congr_left fun q hq => val_placed_of_greatest share hids htop hq, List.sum_map_add,
    sum_map_at (f := fun _ => leftover share owned) hids (greatest_mem htop), leftover]
  exact Nat.add_sub_cancel' (sum_part_le share owned)

theorem sum_placed_le (share : Count) (hids : (owned.map (·.id)).Nodup) :
    (owned.map fun q => (placed share owned q).val).sum ≤ share.val := by
  cases owned with
  | nil => exact Nat.zero_le _
  | cons q l => exact (sum_placed share hids (List.cons_ne_nil q l)).le

theorem val_part (share : Count) (hq : q ∈ owned) :
    (Count.clamp (part share owned q)).val = part share owned q := by
  have hle := part_add_leftover_le share hq
  have hlt := share.val_lt
  rw [Count.val_clamp]
  omega

theorem part?_eq (share : Count) (hq : q ∈ owned) :
    part? share (Count.wideSum (owned.map (·.rights))) q = some (Count.clamp (part share owned q)) := by
  have hle := Count.le_total (List.mem_map_of_mem (f := (·.rights)) hq)
  simp only [part?, wideSum_eq_zero]
  split
  · rename_i hw
    rw [Count.total_map] at hw
    rw [part, hw, Nat.div_zero]
    rfl
  · rename_i hw
    obtain ⟨n, hn, hval⟩ := proportionDown?_wideSum share hle hw
    rw [hn, Option.some.injEq, ← Count.val_inj, val_part share hq, hval, Count.total_map]
    rfl

def parts (share : Count) (owned : List Parcel) : List (ParcelId × Count) :=
  owned.map fun q => (q.id, Count.clamp (part share owned q))

theorem mapM_part? (share : Count) (owned : List Parcel) :
    owned.mapM (fun q =>
      (part? share (Count.wideSum (owned.map (·.rights))) q).map fun n => (q.id, n)) =
        some (parts share owned) :=
  mapM_eq_map fun q hq => by rw [part?_eq share hq]; rfl

theorem total_parts (share : Count) (owned : List Parcel) :
    Count.total ((parts share owned).map (·.2)) = (owned.map (part share owned)).sum := by
  rw [parts, List.map_map, Function.comp_def, Count.total_map,
    List.map_congr_left fun q hq => val_part share hq]

theorem val_leftover (share : Count) (owned : List Parcel) :
    (share.subDownTo (Count.sumUpTo ((parts share owned).map (·.2)))).val =
      leftover share owned := by
  have hle := sum_part_le share owned
  have hlt := share.val_lt
  rw [Count.val_subDownTo, Count.sumUpTo, Count.val_clamp, total_parts, leftover]
  omega

theorem spread?_eq (share : Count) (hids : (owned.map (·.id)).Nodup) :
    spread? share owned = some (owned.map fun q => (q.id, placed share owned q)) := by
  have hleft := val_leftover share owned
  rw [spread?, Option.bind_eq_bind, mapM_part?, Option.bind_some]
  dsimp only
  split
  · rename_i hzero
    rw [hzero] at hleft
    refine congrArg some (List.map_congr_left fun q hq => congrArg (Prod.mk q.id) (Count.ext ?_))
    rw [val_part share hq, val_placed share hq, ← hleft, Count.val_zero, ite_self, Nat.add_zero]
  split
  · rename_i hnone
    rw [greatest_eq_none hnone]
    rfl
  · rename_i top htop
    rw [parts, List.mapM_map]
    refine mapM_eq_map fun q hq => ?_
    have hplaced := val_placed_of_greatest share hids htop hq
    dsimp only [Function.comp]
    split
    · rename_i hid
      rw [if_pos hid, ← hleft, ← val_part share hq] at hplaced
      have hadd := Count.add?_eq_some.mpr hplaced.symm
      exact Option.map_eq_some_iff.mpr ⟨_, hadd, rfl⟩
    · rename_i hid
      rw [if_neg hid, Nat.add_zero, ← val_part share hq] at hplaced
      rw [Count.ext hplaced]

theorem mem_ownedBy {p : PlayerId} {q : Parcel} :
    q ∈ ownedBy b p ↔ q ∈ b.parcels.toList ∧ q.waterOwner = some p := by
  simp [ownedBy]

theorem sum_ownedBy (b : Board) (p : PlayerId) (f : Parcel → Count) :
    ((ownedBy b p).map fun q => (f q).val).sum =
      b.parcels.sum fun q => if q.waterOwner = some p then (f q).val else 0 := by
  rw [← Count.total_map, ownedBy, Roll.total_filter]
  simp only [decide_eq_true_eq]

theorem nodup_ownedBy (b : Board) (p : PlayerId) : ((ownedBy b p).map (·.id)).Nodup :=
  (List.filter_sublist.map _).nodup (Roll.nodup_keys b.parcels)

def spread (b : Board) (water : Count) (p : Player) : Amounts :=
  (ownedBy b p.id).map fun q => (q, placed (share b water p) (ownedBy b p.id) q)

def amounts (b : Board) (water : Count) : Amounts := b.players.toList.flatMap (spread b water)

theorem whole_spread (b : Board) (water : Count) (p : Player) :
    (spread b water p).whole =
      ((ownedBy b p.id).map fun q => (placed (share b water p) (ownedBy b p.id) q).val).sum := by
  rw [Amounts.whole, spread, List.map_map]
  rfl

theorem named_spread (b : Board) (water : Count) (p : Player) (id : PlayerId) :
    (spread b water p).named id = if p.id = id then (spread b water p).whole else 0 := by
  have howner : ∀ x ∈ spread b water p, (if x.1.waterOwner = some id then x.2.val else 0) =
      if p.id = id then x.2.val else 0 := by
    intro x hx
    obtain ⟨q, hq, rfl⟩ := List.mem_map.mp hx
    simp only [(mem_ownedBy.mp hq).2, Option.some.injEq]
  rw [Amounts.named, List.map_congr_left howner]
  split
  · rfl
  · simp

theorem named_amounts {p : Player} (hp : p ∈ b.players.toList) :
    (amounts b water).named p.id = (spread b water p).whole := by
  have hnamed : ∀ p' ∈ b.players.toList, (spread b water p').named p.id =
      if key p' = key p then (spread b water p').whole else 0 :=
    fun p' _ => named_spread b water p' p.id
  rw [amounts, Amounts.named_flatMap]
  exact (Roll.sum_congr hnamed).trans (Roll.sum_at_of_mem hp)

theorem whole_amounts_le (b : Board) (water : Count) :
    (amounts b water).whole ≤ b.players.sum fun p => p.entitlement.val := by
  rw [amounts, Amounts.whole_flatMap]
  refine List.sum_le_sum fun p hp => ?_
  rw [whole_spread]
  exact (sum_placed_le _ (nodup_ownedBy b p.id)).trans (share_le water hp)

theorem nodup_amounts (b : Board) (water : Count) :
    ((amounts b water).map (·.1.id)).Nodup := by
  rw [amounts, List.map_flatMap, List.nodup_flatMap]
  refine ⟨fun p _ => ?_, b.players.ascending.imp fun {p p'} hlt => ?_⟩
  · rw [spread, List.map_map]
    exact nodup_ownedBy b p.id
  · -- a parcel names one player only, so that two players share none
    intro id hid hid'
    obtain ⟨x, hx, rfl⟩ := List.mem_map.mp hid
    obtain ⟨q, hq, rfl⟩ := List.mem_map.mp hx
    obtain ⟨x', hx', he⟩ := List.mem_map.mp hid'
    obtain ⟨q', hq', rfl⟩ := List.mem_map.mp hx'
    obtain ⟨hq, ho⟩ := mem_ownedBy.mp hq
    obtain ⟨hq', ho'⟩ := mem_ownedBy.mp hq'
    obtain rfl : q' = q := Roll.eq_of_key hq' hq he
    exact Key.ne_of_lt hlt (Option.some.inj (ho.symm.trans ho'))

theorem listed_amounts (b : Board) (water : Count) :
    (amounts b water).listed = (b.players.toList.map fun p =>
      (ownedBy b p.id).map fun q => (q.id, placed (share b water p) (ownedBy b p.id) q)).flatten := by
  rw [Amounts.listed, amounts, List.map_flatMap, List.flatMap]
  refine congrArg List.flatten (List.map_congr_left fun p _ => ?_)
  rw [spread, List.map_map]
  rfl

theorem mem_amounts {x : Parcel × Count} (hx : x ∈ amounts b water) :
    ∃ p ∈ b.players.toList, x ∈ spread b water p ∧ x.1 ∈ ownedBy b p.id := by
  obtain ⟨p, hp, hx⟩ := List.mem_flatMap.mp hx
  obtain ⟨q, hq, rfl⟩ := List.mem_map.mp hx
  exact ⟨p, hp, hx, hq⟩

theorem exists_distribute? (b : Board) (water : Count) :
    ∃ d, distribute? b water = some d ∧ Poured b d (amounts b water) ∧
      d.shares = b.players.tabulate (share b water) := by
  have hshares : b.players.toList.mapM (fun p =>
      (share? (whole b) water p).map fun n => (p.id, n)) =
        some (b.players.toList.map fun p => (p.id, share b water p)) :=
    mapM_eq_map fun p hp => by rw [share?_eq hp]; rfl
  have hspreads : (b.players.toList.map fun p => (p.id, share b water p)).mapM (fun x =>
      spread? x.2 (ownedBy b x.1)) = some (b.players.toList.map fun p =>
        (ownedBy b p.id).map fun q => (q.id, placed (share b water p) (ownedBy b p.id) q)) := by
    rw [List.mapM_map]
    exact mapM_eq_map fun p _ => spread?_eq (share b water p) (nodup_ownedBy b p.id)
  refine ⟨_, Option.bind_eq_some_iff.mpr ⟨_, hshares,
    Option.bind_eq_some_iff.mpr ⟨_, hspreads, rfl⟩⟩, ⟨?_, ?_, fun x hx => ?_, nodup_amounts b water⟩,
    ?_⟩
  · rw [listed_amounts]
    rfl
  · rw [listed_amounts]
    rfl
  · obtain ⟨p, _, _, hq⟩ := mem_amounts hx
    exact (mem_ownedBy.mp hq).1
  · exact Shares.ofList_players b.players (share b water)

theorem poured {d : Distribution} (h : distribute? b water = some d) :
    Poured b d (amounts b water) ∧ d.shares = b.players.tabulate (share b water) := by
  obtain ⟨d', h', hd⟩ := exists_distribute? b water
  obtain rfl := Option.some.inj (h.symm.trans h')
  exact hd

theorem laid {d : Distribution}
    (hb : ∀ p ∈ b.players.toList, p.entitlement.val =
      b.parcels.sum fun q => if q.waterOwner = some p.id then q.rights.val else 0)
    (h : distribute? b water = some d) : Laid b d (amounts b water) := by
  obtain ⟨hpoured, hshares⟩ := poured h
  refine ⟨hpoured, fun p hp => ?_⟩
  rw [hshares, Shares.of_eq (Shares.find?_tabulate hp), named_amounts hp, whole_spread]
  by_cases hne : ownedBy b p.id = []
  · -- whoever owns no parcel has no entitlement either
    have hzero := hb p hp
    rw [← sum_ownedBy b p.id (·.rights), hne] at hzero
    have hle := share_le water hp
    rw [hne]
    exact Nat.le_zero.mp (hle.trans (Nat.le_of_eq hzero))
  · exact (sum_placed _ (nodup_ownedBy b p.id) hne).symm

end Watershed.Distribution.Fair
