import Watershed.Proofs.Board.Owners
import Watershed.Proofs.Distribution.Progress

namespace Watershed

structure Board.Vested (b : Board) : Prop where
  owned : ∀ q ∈ b.parcels.toList, ∃ p ∈ b.players.toList, q.waterOwner = some p.id
  entitled : ∀ p ∈ b.players.toList, p.entitlement.val =
    b.parcels.sum fun q => if q.waterOwner = some p.id then q.rights.val else 0

namespace Board

variable {b : Board}

theorem Vested.unowned_eq_nil (hb : b.Vested) : b.unowned = [] := by
  refine List.filter_eq_nil_iff.mpr fun q hq => ?_
  obtain ⟨p, _, ho⟩ := hb.owned q hq
  simp [ho]

theorem Vested.owned_eq (hb : b.Vested) : b.owned = b.parcels.toList := by
  refine List.filter_eq_self.mpr fun q hq => ?_
  obtain ⟨p, _, ho⟩ := hb.owned q hq
  simp [ho]

theorem Vested.ownedRights_eq (hb : b.Vested) :
    b.ownedRights = b.parcels.sum fun q => q.rights.val := by
  rw [ownedRights, hb.owned_eq]
  rfl

theorem Vested.entitled_eq (hb : b.Vested) :
    b.entitled = b.parcels.sum fun q => q.rights.val := by
  have hknown : ∀ q ∈ b.parcels.toList, ∀ id, q.waterOwner = some id →
      ∃ p ∈ b.players.toList, p.id = id := by
    intro q hq id hid
    obtain ⟨p, hp, ho⟩ := hb.owned q hq
    exact ⟨p, hp, Option.some.inj (ho.symm.trans hid)⟩
  have htotal : Count.total (b.players.toList.map (·.entitlement)) +
      Count.total (b.unowned.map (·.rights)) = b.parcels.sum fun q => q.rights.val :=
    total_by_owner hknown hb.entitled
  rwa [hb.unowned_eq_nil, total_entitled, List.map_nil, Count.total, Nat.add_zero] at htotal

theorem Vested.claimed_eq (hb : b.Vested) :
    b.claimed = b.parcels.sum fun q => q.rights.val := by
  rw [claimed, unownedRights, hb.unowned_eq_nil, hb.entitled_eq]
  rfl

end Board

namespace Distribution

open Fair (ownedBy)

variable {b : Board} {water : Count}

theorem entitlement_eq_sum_ownedBy (hb : b.Vested) {p : Player} (hp : p ∈ b.players.toList) :
    p.entitlement.val = ((ownedBy b p.id).map fun q => q.rights.val).sum := by
  rw [hb.entitled p hp, Fair.sum_ownedBy b p.id (·.rights)]

theorem PerParcel.named_amounts (b : Board) (water : Count) (p : PlayerId) :
    (amounts b water).named p =
      ((ownedBy b p).map fun q => due b.ownedRights water.val q.rights.val).sum := by
  have hamount : ∀ q ∈ ownedBy b p,
      (amount b water q).val = due b.ownedRights water.val q.rights.val := by
    intro q hq
    obtain ⟨hq, ho⟩ := Fair.mem_ownedBy.mp hq
    rw [val_amount hq, ho]
    exact if_pos rfl
  rw [← List.map_congr_left hamount, ← Count.total_map, ownedBy, Count.total_map_filter,
    Amounts.named, amounts, List.map_map]
  simp only [decide_eq_true_eq]
  rfl

structure AgreeUpToRounding (owned : List Parcel) (byParcel byPlayer upward : Count) : Prop where
  parcel_le : byParcel.val ≤ byPlayer.val
  player_le : byPlayer.val ≤ upward.val
  upward_le : upward.val ≤ byPlayer.val + 1
  landless : owned = [] → byPlayer = byParcel
  player_lt : owned ≠ [] → byPlayer.val - byParcel.val < owned.length

theorem agreeUpToRounding {owned : List Parcel} {entitlement byParcel byPlayer upward : Count}
    {whole water : Nat} (he : entitlement.val = (owned.map fun q => q.rights.val).sum)
    (hparcel : byParcel.val = (owned.map fun q => due whole water q.rights.val).sum)
    (hplayer : byPlayer.val = due whole water entitlement.val)
    (hupward : upward.val = dueUp whole water entitlement.val) :
    AgreeUpToRounding owned byParcel byPlayer upward := by
  rw [he] at hplayer hupward
  have hle := sum_due_le_due whole water (fun q : Parcel => q.rights.val) owned
  refine ⟨?_, ?_, ?_, fun hnil => ?_, fun hne => ?_⟩
  · rw [hparcel, hplayer]
    exact hle
  · rw [hplayer, hupward]
    exact due_le_dueUp whole water _
  · rw [hplayer, hupward]
    exact dueUp_le_due_add_one whole water _
  · apply Count.ext
    rw [hplayer, hparcel, hnil]
    exact Nat.le_zero.mp (due_le whole water 0)
  · have hlt := due_lt_sum_due_add whole water (fun q : Parcel => q.rights.val) hne
    rw [hparcel, hplayer]
    exact Nat.sub_lt_left_of_lt_add hle hlt

theorem proportions_agree {b : Board} (hb : b.Vested) (water : Count) :
    ∃ rp ro rf, Distributor.perParcel.distribute b water = .ok rp ∧
      Distributor.playerOnly.distribute b water = .ok ro ∧
      Distributor.fair.distribute b water = .ok rf ∧
      ∀ p ∈ b.players.toList, ∃ byParcel byPlayer upward : Count,
        rp.shares.find? p.id = some (p.id, byParcel) ∧
        ro.shares.find? p.id = some (p.id, byPlayer) ∧
        rf.shares.find? p.id = some (p.id, upward) ∧
        AgreeUpToRounding (ownedBy b p.id) byParcel byPlayer upward ∧
        ((b.parcels.sum fun q => q.rights.val) ≤ water.val →
          byParcel = p.entitlement ∧ byPlayer = p.entitlement ∧ upward = p.entitlement) := by
  obtain ⟨rp, hrp, hl, _, hc⟩ := PerParcel.exists_distribute? b water
  obtain ⟨rf, hrf, _, hs⟩ := Fair.exists_distribute? b water
  refine ⟨rp, _, rf, Distributor.perParcel_ok hrp,
    Distributor.playerOnly_ok (PlayerOnly.distribute?_eq b water), Distributor.fair_ok hrf,
    fun p hp => ?_⟩
  have he := entitlement_eq_sum_ownedBy hb hp
  have hparcel := hl.shares p hp
  have hplayer : (PlayerOnly.share b water p).val = due b.entitled water.val p.entitlement.val :=
    PlayerOnly.val_share hp
  have hupward : (Fair.share b water p).val = dueUp b.claimed water.val p.entitlement.val :=
    Fair.val_share hp
  rw [PerParcel.named_amounts, hb.ownedRights_eq] at hparcel
  rw [hb.entitled_eq] at hplayer
  rw [hb.claimed_eq] at hupward
  refine ⟨_, _, _, Shares.find?_of_contains (hc p hp), Shares.find?_tabulate hp,
    hs ▸ Shares.find?_tabulate hp, agreeUpToRounding he hparcel hplayer hupward, fun henough => ?_⟩
  simp only [due_enough henough] at hparcel hplayer
  rw [dueUp_enough henough] at hupward
  exact ⟨Count.ext (hparcel.trans he.symm), Count.ext hplayer, Count.ext hupward⟩

def hamlet : Board where
  players := .ofList [⟨⟨.ofNat 1⟩, "farmer", .clamp 10, 0, .empty, 0⟩,
    ⟨⟨.ofNat 2⟩, "miller", .clamp 6, 0, .empty, 0⟩, ⟨⟨.ofNat 6⟩, "hermit", 0, 0, .empty, 0⟩]
  parcels := .ofList [
    ⟨⟨.ofNat 3⟩, "meadow", "north", ⟨.zero, .zero⟩, .clamp 5, 0, some ⟨.ofNat 1⟩, none⟩,
    ⟨⟨.ofNat 4⟩, "moor", "north", ⟨.zero, .zero⟩, .clamp 5, 0, some ⟨.ofNat 1⟩, none⟩,
    ⟨⟨.ofNat 5⟩, "marsh", "south", ⟨.zero, .zero⟩, .clamp 6, 0, some ⟨.ofNat 2⟩, none⟩]

theorem hamlet_agrees : hamlet.Vested ∧
    ∃ rp ro rf, Distributor.perParcel.distribute hamlet (.clamp 15) = .ok rp ∧
      Distributor.playerOnly.distribute hamlet (.clamp 15) = .ok ro ∧
      Distributor.fair.distribute hamlet (.clamp 15) = .ok rf ∧
      ∀ p ∈ hamlet.players.toList, ∃ byParcel byPlayer upward : Count,
        rp.shares.find? p.id = some (p.id, byParcel) ∧
        ro.shares.find? p.id = some (p.id, byPlayer) ∧
        rf.shares.find? p.id = some (p.id, upward) ∧
        AgreeUpToRounding (ownedBy hamlet p.id) byParcel byPlayer upward ∧
        ((hamlet.parcels.sum fun q => q.rights.val) ≤ (Count.clamp 15).val →
          byParcel = p.entitlement ∧ byPlayer = p.entitlement ∧ upward = p.entitlement) := by
  have hv : hamlet.Vested := ⟨by decide, by decide⟩
  exact ⟨hv, proportions_agree hv (.clamp 15)⟩

example : [Distributor.perParcel, .playerOnly, .fair].map (fun d =>
    (d.distribute hamlet (.clamp 15)).toOption.map fun r => (r.shares.of ⟨.ofNat 1⟩).val) =
      [some 8, some 9, some 10] := by
  decide

end Distribution
end Watershed
