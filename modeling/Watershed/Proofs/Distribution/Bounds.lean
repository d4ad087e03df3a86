import Watershed.Proofs.Distribution.Progress
import Mathlib.Algebra.Field.Rat
import Mathlib.Algebra.Order.Field.Basic
import Mathlib.Algebra.Order.Ring.Rat

namespace Watershed.Distribution

def landed (d : Distribution) : Nat := d.parcels.sum fun q => q.water.val

def WithinEntitlements (d : Distribution) (b : Board) : Prop :=
  ∀ p ∈ b.players.toList, ∃ n : Count, d.shares.find? p.id = some (p.id, n) ∧
    n.val ≤ p.entitlement.val

variable {b : Board} {water : Count}

theorem withinEntitlements_of_tabulate {d : Distribution} {s : Player → Count}
    (h : d.shares = b.players.tabulate s)
    (hs : ∀ p ∈ b.players.toList, (s p).val ≤ p.entitlement.val) : d.WithinEntitlements b := by
  intro p hp
  exact ⟨s p, h ▸ Shares.find?_tabulate hp, hs p hp⟩

theorem Poured.lays_within {d : Distribution} {amounts : Amounts} (h : Poured b d amounts)
    (bound : Parcel → Nat) (hle : ∀ x ∈ amounts, x.2.val ≤ bound x.1) :
    ∀ q ∈ b.parcels.toList, ∃ n ≤ bound q, d.Lays q n :=
  fun _ hq => ⟨_, h.amount_le hle hq, h.lays hq⟩

namespace Fair

theorem sum_share (b : Board) (water : Count) :
    Shares.total (b.players.tabulate (share b water)) =
      b.players.sum fun p => dueUp b.claimed water.val p.entitlement.val := by
  rw [Shares.total_tabulate]
  exact Roll.sum_congr fun p hp => val_share hp

theorem sum_share_enough (h : b.claimed ≤ water.val) :
    Shares.total (b.players.tabulate (share b water)) = b.entitled := by
  rw [sum_share]
  simp only [dueUp_enough h]
  rfl

theorem le_sum_share (h : water.val < b.claimed) : b.entitled * water.val ≤
    Shares.total (b.players.tabulate (share b water)) * b.claimed := by
  rw [sum_share]
  simp only [dueUp_short h]
  exact le_sum_ceilDiv_mul _ _ (Nat.zero_lt_of_lt h) b.players.toList

theorem sum_share_lt (h : water.val < b.claimed) (hn : 0 < b.players.size) :
    Shares.total (b.players.tabulate (share b water)) * b.claimed <
      b.entitled * water.val + b.players.size * b.claimed := by
  rw [sum_share]
  simp only [dueUp_short h]
  have hle := sum_ceilDiv_mul_le (fun p : Player => p.entitlement.val) water.val
    (Nat.zero_lt_of_lt h) b.players.toList
  exact Nat.lt_of_lt_of_le (Nat.lt_add_of_pos_right hn) hle

theorem sum_share_lt_add (b : Board) (water : Count) (hn : 0 < b.players.size) :
    Shares.total (b.players.tabulate (share b water)) < water.val + b.players.size := by
  have hle : b.entitled ≤ b.claimed := Nat.le_add_right _ _
  rcases Nat.lt_or_ge water.val b.claimed with h | h
  · have hlt := sum_share_lt h hn
    have hrain : b.entitled * water.val ≤ water.val * b.claimed := by
      rw [Nat.mul_comm]
      exact Nat.mul_le_mul_left _ hle
    refine Nat.lt_of_mul_lt_mul_right (a := b.claimed) ?_
    rw [Nat.add_mul]
    omega
  · rw [sum_share_enough h]
    omega

theorem sum_share_rat (h : water.val < b.claimed) :
    (water.val * b.entitled : ℚ) / b.claimed ≤
        Shares.total (b.players.tabulate (share b water)) ∧
      (0 < b.players.size → (Shares.total (b.players.tabulate (share b water)) : ℚ) <
        (water.val * b.entitled : ℚ) / b.claimed + b.players.size) := by
  have hpos : (0 : ℚ) < b.claimed := Nat.cast_pos.mpr (Nat.zero_lt_of_lt h)
  refine ⟨(div_le_iff₀ hpos).mpr ?_, fun hn => ?_⟩
  · rw [mul_comm (water.val : ℚ)]
    exact_mod_cast le_sum_share h
  · rw [← sub_lt_iff_lt_add, lt_div_iff₀ hpos, sub_mul, sub_lt_iff_lt_add, mul_comm (water.val : ℚ)]
    exact_mod_cast sum_share_lt h hn

end Fair

theorem PerParcel.amount_le {x : Parcel × Count} (hx : x ∈ amounts b water) :
    x.2.val ≤ x.1.rights.val := by
  obtain ⟨q, hq, rfl⟩ := List.mem_map.mp hx
  rw [val_amount hq]
  split
  · exact due_le ..
  · exact Nat.zero_le _

theorem PerParcel.unassigned_lt (h : water.val < b.ownedRights) :
    water.val - (amounts b water).whole < b.owned.length := by
  have hlt := lt_sum_due_add (fun q : Parcel => q.rights.val) h
  have hle := whole_amounts_le b water
  rw [whole_amounts] at hle ⊢
  exact Nat.sub_lt_left_of_lt_add hle hlt

theorem PlayerOnly.sum_share_le (b : Board) (water : Count) :
    Shares.total (b.players.tabulate (share b water)) ≤ water.val := by
  rw [Shares.total_tabulate, Roll.sum_congr fun p hp => val_share hp]
  exact sum_due_le (fun p : Player => p.entitlement.val) water.val b.players.toList

theorem handed_out_bounded (b : Board) (water : Count) :
    (∃ d, Distributor.fair.distribute b water = .ok d ∧ d.WithinEntitlements b ∧
      (b.claimed ≤ water.val → d.shares.total = b.entitled) ∧
      (water.val < b.claimed →
        (water.val * b.entitled : ℚ) / b.claimed ≤ d.shares.total ∧
          (0 < b.players.size → (d.shares.total : ℚ) <
            (water.val * b.entitled : ℚ) / b.claimed + b.players.size)) ∧
      (0 < b.players.size → d.shares.total < water.val + b.players.size)) ∧
    (∃ d, Distributor.perParcel.distribute b water = .ok d ∧ d.landed = d.shares.total ∧
      d.landed ≤ water.val ∧ (∀ q ∈ b.parcels.toList, ∃ n ≤ q.rights.val, d.Lays q n) ∧
      (water.val < b.ownedRights → water.val - d.landed < b.owned.length)) ∧
    (∀ cap : Count, ∃ d, (Distributor.tiered (some cap)).distribute b water = .ok d ∧
      d.landed ≤ water.val ∧ ∀ q ∈ b.parcels.toList, ∃ n ≤ cap.val, d.Lays q n) ∧
    ∃ d, Distributor.playerOnly.distribute b water = .ok d ∧ d.shares.total ≤ water.val ∧
      d.WithinEntitlements b ∧ d.parcels = b.parcels ∧ d.written = [] := by
  refine ⟨?_, ?_, fun cap => ?_, ?_⟩
  · obtain ⟨d, hd, _, hshares⟩ := Fair.exists_distribute? b water
    refine ⟨d, Distributor.fair_ok hd, withinEntitlements_of_tabulate hshares fun p hp =>
      Fair.share_le water hp, ?_⟩
    rw [hshares]
    exact ⟨Fair.sum_share_enough, Fair.sum_share_rat, Fair.sum_share_lt_add b water⟩
  · obtain ⟨d, hd, hl, htotal, _⟩ := PerParcel.exists_distribute? b water
    have hlanded : d.landed = (PerParcel.amounts b water).whole := hl.whole_eq
    refine ⟨d, Distributor.perParcel_ok hd, hlanded.trans htotal.symm, ?_,
      hl.lays_within (·.rights.val) fun x => PerParcel.amount_le, ?_⟩
    · exact hlanded ▸ PerParcel.whole_amounts_le b water
    · exact hlanded ▸ PerParcel.unassigned_lt
  · obtain ⟨d, hd, hl, _⟩ := Tiered.exists_distribute? cap b water
    have hlanded : d.landed = (Tiered.poured cap water (Tiered.tiers b.parcels)).whole := hl.whole_eq
    refine ⟨d, Distributor.tiered_ok hd, ?_, hl.lays_within (fun _ => cap.val) fun x =>
      Tiered.poured_le⟩
    exact hlanded ▸ Tiered.whole_poured_le ..
  · refine ⟨_, Distributor.playerOnly_ok (PlayerOnly.distribute?_eq b water),
      PlayerOnly.sum_share_le b water, withinEntitlements_of_tabulate rfl fun p hp => ?_, rfl, rfl⟩
    exact PlayerOnly.val_share hp ▸ due_le ..

example :
    let third (k : Nat) : Player := ⟨⟨.ofNat k⟩, "claimant", 1, 0, .empty, 0⟩
    (Distributor.fair.distribute ⟨.ofList [third 0, third 1, third 2], .empty⟩ 1).toOption.map
      (·.shares.total) = some 3 := by
  decide

end Watershed.Distribution
