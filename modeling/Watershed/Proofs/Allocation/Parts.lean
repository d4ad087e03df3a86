import Watershed.Proofs.Allocation.GiveBack
import Watershed.Proofs.Distribution.Proportion

namespace Watershed.Allocation

theorem ceilDiv_step {n d : Nat} (hd : 0 < d) (h : d < n) : n ⌈/⌉ d = (n - d) ⌈/⌉ d + 1 := by
  rw [Nat.ceilDiv_eq_add_pred_div, Nat.ceilDiv_eq_add_pred_div, ← Nat.add_div_right _ hd]
  congr 1
  omega

theorem ceilDiv_pos {n d : Nat} (hn : 0 < n) (hd : 0 < d) : 0 < n ⌈/⌉ d := by
  rw [Nat.ceilDiv_eq_add_pred_div]
  exact Nat.div_pos (by omega) hd

theorem deal_nothing (part : Count) (ids : List ParcelId) : deal part 0 ids = [] := by
  cases ids with
  | nil => rfl
  | cons id rest => exact if_pos rfl

theorem deal_cons (part : Count) {outstanding : Count} (h : outstanding ≠ 0) (id : ParcelId)
    (ids : List ParcelId) : deal part outstanding (id :: ids) =
      (id, min part outstanding) :: deal part (outstanding.subDownTo (min part outstanding)) ids :=
  if_neg h

theorem deal_eq_zip {part : Count} (hpart : 0 < part.val) {outstanding : Count}
    (hpos : 0 < outstanding.val) (ids : List ParcelId)
    (hroom : outstanding.val ≤ part.val * ids.length) :
    ∃ rest : Count, 0 < rest.val ∧ rest.val ≤ part.val ∧
      deal part outstanding ids = (ids.take (outstanding.val ⌈/⌉ part.val)).zip
        (List.replicate (outstanding.val ⌈/⌉ part.val - 1) part ++ [rest]) := by
  induction ids generalizing outstanding with
  | nil =>
    rw [List.length_nil, Nat.mul_zero] at hroom
    omega
  | cons id ids ih =>
    have hne : outstanding ≠ 0 := fun e => by simp [e] at hpos
    rw [List.length_cons, Nat.mul_succ] at hroom
    rw [deal_cons part hne]
    by_cases hlast : outstanding.val ≤ part.val
    · have hmin : min part outstanding = outstanding :=
        Count.ext (by rw [Count.val_min]; omega)
      have hzero : outstanding.subDownTo outstanding = 0 :=
        Count.ext (by rw [Count.val_subDownTo, Nat.sub_self, Count.val_zero])
      refine ⟨outstanding, hpos, hlast, ?_⟩
      rw [hmin, hzero, deal_nothing, Distribution.ceilDiv_eq_one hpos hlast]
      rfl
    · have hmin : min part outstanding = part :=
        Count.ext (by rw [Count.val_min]; omega)
      have hless : (outstanding.subDownTo part).val = outstanding.val - part.val := rfl
      obtain ⟨rest, hrest, hle, hdeal⟩ :=
        ih (show 0 < (outstanding.subDownTo part).val by omega) (by omega)
      have hk := ceilDiv_pos (n := (outstanding.subDownTo part).val) (by omega) hpart
      refine ⟨rest, hrest, hle, ?_⟩
      rw [hmin, hdeal, ceilDiv_step (n := outstanding.val) hpart (by omega), ← hless]
      obtain ⟨k, hk⟩ := Nat.exists_eq_succ_of_ne_zero (Nat.ne_of_gt hk)
      rw [hk]
      rfl

def InParts (owned : Plan) (returned : Count) (l : List (ParcelId × Count)) : Prop :=
  ∃ part rest : Count, part.val = returned.val ⌈/⌉ owned.size ∧
    returned.val ⌈/⌉ part.val ≤ owned.size ∧ 0 < rest.val ∧ rest.val ≤ part.val ∧
    l = (owned.keys.take (returned.val ⌈/⌉ part.val)).zip
      (List.replicate (returned.val ⌈/⌉ part.val - 1) part ++ [rest])

theorem giveBack_inParts {owned : Plan} {home : ParcelId} {returned : Count}
    (hpos : 0 < returned.val) (hsize : owned.size ≠ 0) (hhome : owned.contains home = false) :
    InParts owned returned (giveBack owned home returned) := by
  have hn : 0 < owned.size := Nat.pos_of_ne_zero hsize
  have hpart : (evenPart returned owned.size).val = returned.val ⌈/⌉ owned.size :=
    val_evenPart hn hpos
  have henough := le_evenPart_mul hn hpos
  have hlen : owned.keys.length = owned.size := List.length_map _
  have hpartpos : 0 < (evenPart returned owned.size).val := hpart ▸ ceilDiv_pos hpos hn
  obtain ⟨rest, hrest, hle, hdeal⟩ := deal_eq_zip hpartpos hpos owned.keys
    (by rw [hlen]; exact henough)
  refine ⟨evenPart returned owned.size, rest, hpart, ?_, hrest, hle, ?_⟩
  · exact (ceilDiv_le_iff_le_mul hpartpos).mpr henough
  · rw [giveBack, if_neg hsize, if_neg (by simp [hhome]), hdeal]

theorem given_back_in_full (owned : Plan) (home : ParcelId) {returned : Count}
    (hpos : 0 < returned.val) :
    (giveBack owned home returned = [] ↔ owned.size = 0) ∧
    (owned.contains home = true → giveBack owned home returned = [(home, returned)]) ∧
    (owned.size ≠ 0 → owned.contains home = false →
      InParts owned returned (giveBack owned home returned)) ∧
    (owned.size ≠ 0 → Returned owned returned (giveBack owned home returned)) := by
  refine ⟨giveBack_eq_nil_iff hpos, fun hhome => ?_, giveBack_inParts hpos,
    fun hsize => giveBack_spec home hsize hpos⟩
  obtain ⟨x, hx, _⟩ := Roll.contains_iff.mp hhome
  have hsize : owned.size ≠ 0 := fun e => List.ne_nil_of_mem hx (List.length_eq_zero_iff.mp e)
  rw [giveBack, if_neg hsize, if_pos hhome]

def fourLots : Plan :=
  .ofList [(⟨.ofNat 1⟩, .clamp 3), (⟨.ofNat 2⟩, .clamp 8), (⟨.ofNat 3⟩, .clamp 8), (⟨.ofNat 4⟩, 0)]

theorem five_given_back_to_fourLots :
    giveBack fourLots ⟨.ofNat 5⟩ (.clamp 5) =
        [(⟨.ofNat 1⟩, .clamp 2), (⟨.ofNat 2⟩, .clamp 2), (⟨.ofNat 3⟩, .clamp 1)] ∧
      InParts fourLots (.clamp 5) (giveBack fourLots ⟨.ofNat 5⟩ (.clamp 5)) ∧
      Returned fourLots (.clamp 5) (giveBack fourLots ⟨.ofNat 5⟩ (.clamp 5)) :=
  have h := given_back_in_full fourLots ⟨.ofNat 5⟩ (show 0 < (Count.clamp 5).val by decide +kernel)
  ⟨by decide +kernel, h.2.2.1 (by decide +kernel) (by decide +kernel), h.2.2.2 (by decide +kernel)⟩

end Watershed.Allocation
