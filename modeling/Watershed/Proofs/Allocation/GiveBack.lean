import Watershed.Proofs.Allocation.Draw

namespace Watershed.Allocation

structure Returned (owned : Plan) (returned : Count) (l : List (ParcelId × Count)) : Prop where
  nodup : (l.map (·.1)).Nodup
  pos : ∀ x ∈ l, 0 < x.2.val
  known : ∀ x ∈ l, owned.contains x.1 = true
  total : Count.total (l.map (·.2)) = returned.val

theorem deal_sublist (part outstanding : Count) (ids : List ParcelId) :
    ((deal part outstanding ids).map (·.1)).Sublist ids := by
  induction ids generalizing outstanding with
  | nil => exact List.Sublist.refl _
  | cons id rest ih =>
    simp only [deal]
    split
    · exact List.nil_sublist _
    · exact (ih _).cons_cons id

theorem deal_pos {part : Count} (hpart : 0 < part.val) (outstanding : Count) (ids : List ParcelId) :
    ∀ x ∈ deal part outstanding ids, 0 < x.2.val := by
  induction ids generalizing outstanding with
  | nil => simp [deal]
  | cons id rest ih =>
    simp only [deal]
    split
    · simp
    · rename_i hz
      have ho := Count.pos_of_ne hz
      refine List.forall_mem_cons.mpr ⟨?_, ih _⟩
      rw [Count.val_min]
      omega

theorem deal_total (part outstanding : Count) (ids : List ParcelId) :
    Count.total ((deal part outstanding ids).map (·.2)) =
      min outstanding.val (part.val * ids.length) := by
  induction ids generalizing outstanding with
  | nil => simp [deal, Count.total]
  | cons id rest ih =>
    simp only [deal]
    split
    · rename_i hz
      rw [hz]
      simp [Count.total]
    · rw [List.map_cons, Count.total, ih, List.length_cons, Nat.mul_succ]
      simp only [Count.val_subDownTo, Count.val_min]
      omega

theorem val_evenPart {c : Count} {n : Nat} (hn : 0 < n) (hc : 0 < c.val) :
    (evenPart c n).val = (c.val + n - 1) / n := by
  have hle : (c.val + n - 1) / n ≤ c.val := by
    rw [Nat.div_le_iff_le_mul_add_pred hn]
    have hmul : c.val ≤ n * c.val := Nat.le_mul_of_pos_left _ hn
    omega
  have hlt := c.val_lt
  rw [evenPart, Count.val_clamp]
  omega

theorem le_evenPart_mul {c : Count} {n : Nat} (hn : 0 < n) (hc : 0 < c.val) :
    c.val ≤ (evenPart c n).val * n := by
  rw [val_evenPart hn hc]
  have hdiv := Nat.div_add_mod (c.val + n - 1) n
  have hmod := Nat.mod_lt (c.val + n - 1) hn
  rw [Nat.mul_comm] at hdiv
  omega

theorem giveBack_eq_nil {owned : Plan} {home : ParcelId} {returned : Count} (h : owned.size = 0) :
    giveBack owned home returned = [] := if_pos h

theorem giveBack_spec {owned : Plan} (home : ParcelId) {returned : Count} (hsize : owned.size ≠ 0)
    (hpos : 0 < returned.val) : Returned owned returned (giveBack owned home returned) := by
  have hn : 0 < owned.size := Nat.pos_of_ne_zero hsize
  simp only [giveBack, if_neg hsize]
  split
  · rename_i hhome
    exact ⟨List.nodup_singleton _, by simpa using hpos, by simpa using hhome, by simp [Count.total]⟩
  · have hsub := deal_sublist (evenPart returned owned.size) returned owned.keys
    have hle := le_evenPart_mul hn hpos
    refine ⟨hsub.nodup (Roll.nodup_keys owned), deal_pos ?_ _ _, fun x hx => ?_, ?_⟩
    · exact Nat.pos_of_ne_zero fun e => by simp [e] at hle; omega
    · obtain ⟨y, hy, hk⟩ := List.mem_map.mp (hsub.subset (List.mem_map_of_mem (f := (·.1)) hx))
      exact Roll.contains_iff.mpr ⟨y, hy, hk⟩
    · have hlen : owned.keys.length = owned.size := List.length_map _
      rw [deal_total, hlen]
      omega

theorem giveBack_eq_nil_iff {owned : Plan} {home : ParcelId} {returned : Count}
    (hpos : 0 < returned.val) : giveBack owned home returned = [] ↔ owned.size = 0 := by
  refine ⟨fun h => ?_, giveBack_eq_nil⟩
  by_contra hsize
  have ht := (giveBack_spec home hsize hpos).total
  rw [h] at ht
  simp only [List.map_nil, Count.total] at ht
  omega

end Watershed.Allocation
