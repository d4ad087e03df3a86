import Watershed.Proofs.Distribution.Proportion
import Watershed.Proofs.Distribution.Shares

namespace Watershed

namespace Board

def ownedRights (b : Board) : Nat := (b.owned.map fun q => q.rights.val).sum

def unownedRights (b : Board) : Nat := (b.unowned.map fun q => q.rights.val).sum

def entitled (b : Board) : Nat := b.players.sum fun p => p.entitlement.val

def claimed (b : Board) : Nat := b.entitled + b.unownedRights

theorem mem_owned {b : Board} {q : Parcel} :
    q ∈ b.owned ↔ q ∈ b.parcels.toList ∧ q.waterOwner.isSome = true := List.mem_filter

theorem total_owned (b : Board) : Count.total (b.owned.map (·.rights)) = b.ownedRights :=
  Count.total_map (·.rights) b.owned

theorem total_entitled (b : Board) :
    Count.total (b.players.toList.map (·.entitlement)) = b.entitled := Roll.total_map

theorem total_demand (b : Board) : Count.total b.demand = b.claimed := by
  rw [demand, Count.total_append, total_entitled, Count.total_map]
  rfl

theorem entitlement_le {b : Board} {p : Player} (hp : p ∈ b.players.toList) :
    p.entitlement.val ≤ b.entitled := Roll.le_sum (f := fun p => p.entitlement.val) hp

end Board

namespace Distribution

variable {b : Board} {water : Count}

namespace PerParcel

def amount (b : Board) (water : Count) (q : Parcel) : Count := (amount? (whole b) water q).getD 0

def amounts (b : Board) (water : Count) : Amounts :=
  b.parcels.toList.map fun q => (q, amount b water q)

theorem exists_amount? (water : Count) {q : Parcel} (hq : q ∈ b.parcels.toList) :
    ∃ n : Count, amount? (whole b) water q = some n ∧
      n.val = if q.waterOwner.isSome then due b.ownedRights water.val q.rights.val else 0 := by
  unfold amount?
  cases ho : q.waterOwner with
  | none => exact ⟨0, rfl, rfl⟩
  | some p =>
    have hmem : q ∈ b.owned := Board.mem_owned.mpr ⟨hq, by rw [ho]; rfl⟩
    have hle : q.rights.val ≤ b.ownedRights := List.le_sum_of_mem (List.mem_map_of_mem hmem)
    simp only [whole, wideSum_eq_zero, wideSum_le, Board.total_owned, Option.isSome_some, if_true]
    split
    · exact ⟨0, rfl, by rw [due_enough (by omega), Count.val_zero]; omega⟩
    rename_i hw
    split
    · rename_i henough
      exact ⟨q.rights, rfl, (due_enough henough _).symm⟩
    · rename_i hshort
      rw [due_short (Nat.not_le.mp hshort), ← Board.total_owned]
      rw [← Board.total_owned] at hle hw
      exact proportionDown?_wideSum water hle hw

theorem amount?_eq {q : Parcel} (hq : q ∈ b.parcels.toList) :
    amount? (whole b) water q = some (amount b water q) := by
  obtain ⟨n, hn, _⟩ := exists_amount? water hq
  rw [amount, hn, Option.getD_some]

theorem val_amount {q : Parcel} (hq : q ∈ b.parcels.toList) :
    (amount b water q).val =
      if q.waterOwner.isSome then due b.ownedRights water.val q.rights.val else 0 := by
  obtain ⟨n, hn, hval⟩ := exists_amount? water hq
  rw [amount, hn, Option.getD_some, hval]

theorem whole_amounts (b : Board) (water : Count) :
    (amounts b water).whole =
      (b.owned.map fun q => due b.ownedRights water.val q.rights.val).sum := by
  have hunowned : ∀ q ∈ b.parcels.toList, q.waterOwner.isSome = false →
      (amount b water q).val = 0 := by
    intro q hq ho
    rw [val_amount hq, ho, if_neg Bool.false_ne_true]
  have howned : ∀ q ∈ b.owned,
      (amount b water q).val = due b.ownedRights water.val q.rights.val := by
    intro q hq
    obtain ⟨hq, ho⟩ := Board.mem_owned.mp hq
    rw [val_amount hq, if_pos ho]
  rw [← List.map_congr_left howned, Board.owned, sum_filter_of hunowned, Amounts.whole, amounts,
    List.map_map]
  rfl

theorem whole_amounts_le (b : Board) (water : Count) : (amounts b water).whole ≤ water.val := by
  rw [whole_amounts]
  exact sum_due_le (fun q : Parcel => q.rights.val) water.val b.owned

theorem mapM_amount? (b : Board) (water : Count) :
    b.parcels.toList.mapM (fun q => (amount? (whole b) water q).map fun n => (q, n)) =
      some (amounts b water) :=
  mapM_eq_map fun q hq => by rw [amount?_eq hq]; rfl

theorem exists_distribute? (b : Board) (water : Count) :
    ∃ d, distribute? b water = some d ∧ Laid b d (amounts b water) ∧
      d.shares.total = (amounts b water).whole ∧
      ∀ p ∈ b.players.toList, d.shares.contains p.id = true := by
  have hroom : ∀ p, ((Shares.zero b.players).of p).val + Amounts.named ((amounts b water).map id) p <
      18446744073709551616 := by
    intro p
    rw [Shares.of_zero, List.map_id]
    refine (Nat.zero_add _).trans_lt (Nat.lt_of_le_of_lt ?_ water.val_lt)
    exact ((amounts b water).named_le_whole p).trans (whole_amounts_le b water)
  obtain ⟨shares, hs⟩ := Shares.exists_foldlM id hroom
  have hunowned : ∀ x ∈ amounts b water,
      (if x.1.waterOwner.isSome then x.2.val else 0) = x.2.val := by
    intro x hx
    obtain ⟨q, hq, rfl⟩ := List.mem_map.mp hx
    cases ho : q.waterOwner.isSome with
    | true => exact if_pos rfl
    | false => rw [val_amount hq, ho, if_neg Bool.false_ne_true]; rfl
  refine ⟨_, Option.bind_eq_some_iff.mpr ⟨_, mapM_amount? b water,
    Option.bind_eq_some_iff.mpr ⟨shares, hs, rfl⟩⟩,
    ⟨⟨?_, ?_, fun x hx => ?_, ?_⟩, fun p _ => ?_⟩, ?_, fun p hp => ?_⟩
  · rfl
  · rfl
  · obtain ⟨q, hq, rfl⟩ := List.mem_map.mp hx
    exact hq
  · rw [amounts, List.map_map]
    exact Roll.nodup_keys b.parcels
  · have hof := Shares.of_foldlM id hs p.id
    rw [Shares.of_zero, List.map_id] at hof
    exact hof.trans (Nat.zero_add _)
  · have htotal := Shares.total_foldlM id hs
    rw [Shares.total_zero, List.map_id, List.map_congr_left hunowned] at htotal
    exact htotal.trans (Nat.zero_add _)
  · exact Shares.contains_foldlM id hs (Shares.contains_zero hp)

theorem laid {d : Distribution} (h : distribute? b water = some d) :
    Laid b d (amounts b water) := by
  obtain ⟨d', h', hl, _⟩ := exists_distribute? b water
  obtain rfl := Option.some.inj (h.symm.trans h')
  exact hl

end PerParcel

namespace PlayerOnly

def share (b : Board) (water : Count) (p : Player) : Count := (share? (whole b) water p).getD 0

theorem exists_share? (water : Count) {p : Player} (hp : p ∈ b.players.toList) :
    ∃ n : Count, share? (whole b) water p = some n ∧
      n.val = due b.entitled water.val p.entitlement.val := by
  have hle := Board.entitlement_le hp
  simp only [share?, whole, wideSum_eq_zero, Board.total_entitled]
  split
  · exact ⟨0, rfl, by rw [due_enough (by omega), Count.val_zero]; omega⟩
  rename_i hw
  rw [← Board.total_entitled] at hle hw
  obtain ⟨n, hn, hval⟩ := proportionDown?_wideSum water hle hw
  refine ⟨min n p.entitlement, by rw [hn]; rfl, ?_⟩
  rw [Count.val_min, hval, ← Board.total_entitled]
  rcases Nat.lt_or_ge water.val (Count.total (b.players.toList.map (·.entitlement))) with h | h
  · rw [due_short h]
    exact Nat.min_eq_left (div_le_part _ h)
  · rw [due_enough h]
    refine Nat.min_eq_right ((Nat.le_div_iff_mul_le (Nat.pos_of_ne_zero hw)).mpr ?_)
    exact Nat.mul_le_mul_left _ h

theorem share?_eq {p : Player} (hp : p ∈ b.players.toList) :
    share? (whole b) water p = some (share b water p) := by
  obtain ⟨n, hn, _⟩ := exists_share? water hp
  rw [share, hn, Option.getD_some]

theorem val_share {p : Player} (hp : p ∈ b.players.toList) :
    (share b water p).val = due b.entitled water.val p.entitlement.val := by
  obtain ⟨n, hn, hval⟩ := exists_share? water hp
  rw [share, hn, Option.getD_some, hval]

theorem distribute?_eq (b : Board) (water : Count) :
    distribute? b water = some ⟨b.players.tabulate (share b water), b.parcels, []⟩ := by
  have hshares : b.players.toList.mapM (fun p =>
      (share? (whole b) water p).map fun n => (p.id, n)) =
        some (b.players.toList.map fun p => (p.id, share b water p)) :=
    mapM_eq_map fun p hp => by rw [share?_eq hp]; rfl
  rw [← Shares.ofList_players]
  exact Option.bind_eq_some_iff.mpr ⟨_, hshares, rfl⟩

end PlayerOnly

end Distribution
end Watershed
