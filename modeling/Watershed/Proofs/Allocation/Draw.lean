import Watershed.Allocation.Draw
import Watershed.Proofs.Outcome
import Watershed.Proofs.Roll.Amount

namespace Watershed

namespace Plan

theorem on_of_mem {p : Plan} {x : ParcelId × Count} (h : x ∈ p.toList) : p.on x.1 = x.2 := by
  have hf : p.find? x.1 = some x := Roll.find?_of_mem h
  rw [on, hf]

theorem on_of_find?_eq_none {p : Plan} {id : ParcelId} (h : p.find? id = none) : p.on id = 0 := by
  rw [on, h]

theorem on_put (p : Plan) (x : ParcelId × Count) (id : ParcelId) :
    Plan.on (p.put x) id = if x.1 = id then x.2 else p.on id := by
  split
  · rename_i h
    subst h
    exact on_of_mem (Roll.mem_put.mpr (Or.inl rfl))
  · rename_i h
    rw [on, Roll.find?_put_of_ne (a := x) h, on]

theorem mem_of_on_pos {p : Plan} {id : ParcelId} (h : 0 < (p.on id).val) :
    (id, p.on id) ∈ p.toList := by
  cases hf : p.find? id with
  | none =>
    rw [on_of_find?_eq_none hf] at h
    exact absurd h (Nat.lt_irrefl 0)
  | some x =>
    obtain ⟨k, n⟩ := x
    obtain rfl : k = id := Roll.key_of_find? hf
    have hm := Roll.mem_of_find? hf
    rwa [on_of_mem hm]

def water (p : Plan) : Nat := p.sum fun x => x.2.val

end Plan

namespace Allocation

structure Drawn (pool : Plan) (required : Count) (l : List (ParcelId × Count)) : Prop where
  nodup : (l.map (·.1)).Nodup
  pos : ∀ x ∈ l, 0 < x.2.val
  within : ∀ x ∈ l, x.2.val ≤ (pool.on x.1).val
  total : Count.total (l.map (·.2)) = required.val

theorem richest_spec {home : ParcelId} {l : List (ParcelId × Count)} {x : ParcelId × Count}
    (h : richest home l = some x) : x ∈ l ∧ x.1 ≠ home := by
  induction l generalizing x with
  | nil => cases h
  | cons y rest ih =>
    simp only [richest] at h
    split at h
    · split at h
      · cases h
      · rename_i hy
        cases h
        exact ⟨List.mem_cons_self, fun e => hy (Or.inl e)⟩
    · rename_i z hz
      obtain ⟨hm, hne⟩ := ih hz
      split at h
      · cases h
        exact ⟨List.mem_cons_of_mem _ hm, hne⟩
      · rename_i hy
        cases h
        exact ⟨List.mem_cons_self, fun e => hy (Or.inl e)⟩

theorem richest_eq_none {home : ParcelId} {l : List (ParcelId × Count)}
    (h : richest home l = none) : ∀ x ∈ l, x.1 = home ∨ x.2 = 0 := by
  induction l with
  | nil => simp
  | cons y rest ih =>
    simp only [richest] at h
    split at h
    · rename_i hrest
      split at h
      · rename_i hy
        exact List.forall_mem_cons.mpr ⟨hy, ih hrest⟩
      · cases h
    · split at h <;> cases h

theorem Drawn.cons {pool : Plan} {x : ParcelId × Count} {required : Count}
    {l : List (ParcelId × Count)} (hx : x ∈ pool.toList) (hpos : 0 < x.2.val)
    (hreq : 0 < required.val)
    (h : Drawn (pool.put (x.1, x.2.subDownTo (min x.2 required)))
      (required.subDownTo (min x.2 required)) l) :
    Drawn pool required ((x.1, min x.2 required) :: l) := by
  have ht := h.total
  simp only [Count.val_subDownTo, Count.val_min] at ht
  have hfirst : x.1 ∉ l.map (·.1) := by
    intro hm
    obtain ⟨y, hy, hyx⟩ := List.mem_map.mp hm
    have hyp := h.pos y hy
    have hyw := h.within y hy
    have hyt := Count.le_total (List.mem_map_of_mem (f := (·.2)) hy)
    rw [Plan.on_put, if_pos hyx.symm, Count.val_subDownTo, Count.val_min] at hyw
    omega
  refine ⟨List.nodup_cons.mpr ⟨hfirst, h.nodup⟩, ?_, ?_, ?_⟩
  · refine List.forall_mem_cons.mpr ⟨?_, h.pos⟩
    simp only [Count.val_min]
    omega
  · refine List.forall_mem_cons.mpr ⟨?_, fun y hy => ?_⟩
    · simp only [Plan.on_of_mem hx, Count.val_min]
      omega
    · have hne : x.1 ≠ y.1 := fun e => hfirst (e ▸ List.mem_map_of_mem hy)
      have hw := h.within y hy
      rwa [Plan.on_put, if_neg hne] at hw
  · simp only [List.map_cons, Count.total, Count.val_min]
    omega

theorem drawRichest_eq_ok {home : ParcelId} {pool : Plan} {outstanding : Count}
    {l : List (ParcelId × Count)} (h : drawRichest home pool outstanding = .ok l) :
    Drawn pool outstanding l := by
  fun_induction drawRichest generalizing l with
  | case1 pool =>
    cases h
    exact ⟨List.nodup_nil, by simp, by simp, rfl⟩
  | case2 => cases h
  | case3 => cases h
  | case4 pool outstanding hz x hx taken rest hrest =>
    rename_i ih
    cases h
    exact (ih hrest).cons (richest_spec hx).1 (richest_pos hx) (Count.pos_of_ne hz)

theorem drawRichest_eq_error {home : ParcelId} {pool : Plan} {outstanding n : Count}
    (h : drawRichest home pool outstanding = .error n) :
    (pool.sum fun x => if x.1 = home then 0 else x.2.val) < outstanding.val := by
  fun_induction drawRichest with
  | case1 => cases h
  | case2 pool outstanding hz hnone =>
    have hdry : (pool.sum fun x => if x.1 = home then 0 else x.2.val) = 0 := by
      refine Roll.sum_eq_zero fun x hx => ?_
      rcases richest_eq_none hnone x hx with hh | hw
      · exact if_pos hh
      · rw [hw]
        exact ite_self _
    rw [hdry]
    exact Count.pos_of_ne hz
  | case3 pool outstanding hz x hx taken m hm ih =>
    cases h
    -- the pool and what is outstanding are both down by what was taken
    have hlt := ih hm
    obtain ⟨hmem, hne⟩ := richest_spec hx
    have hput := Roll.sum_put_of_mem (f := fun y => if y.1 = home then 0 else y.2.val)
      (a := (x.1, x.2.subDownTo taken)) hmem rfl
    simp only [if_neg hne, Count.val_subDownTo, taken, Count.val_min] at hput hlt
    omega
  | case4 => cases h

theorem draw_eq_ok {pool : Plan} {home : ParcelId} {required : Count}
    {l : List (ParcelId × Count)} (h : draw pool home required = .ok l) :
    Drawn pool required l := by
  simp only [draw] at h
  split at h
  · exact drawRichest_eq_ok h
  · rename_i hz
    have htaken := Count.pos_of_ne hz
    rw [Count.val_min] at htaken
    have hon : 0 < (pool.on home).val := by omega
    have hreq : 0 < required.val := by omega
    obtain ⟨rest, hrest, rfl⟩ := map_eq_ok.mp h
    exact (drawRichest_eq_ok hrest).cons (Plan.mem_of_on_pos hon) hon hreq

theorem water_eq (pool : Plan) (home : ParcelId) :
    pool.water = (pool.sum fun x => if x.1 = home then 0 else x.2.val) + (pool.on home).val := by
  have hon : (pool.on home).val = pool.sum fun x => if key x = home then x.2.val else 0 := by
    rw [Roll.sum_at, Plan.on]
    cases pool.find? home <;> rfl
  rw [hon, ← Roll.sum_add]
  refine Roll.sum_congr fun x _ => ?_
  by_cases hx : x.1 = home
  · rw [if_pos hx, if_pos (show key x = home from hx), Nat.zero_add]
  · rw [if_neg hx, if_neg (show ¬ key x = home from hx), Nat.add_zero]

theorem draw_eq_error {pool : Plan} {home : ParcelId} {required n : Count}
    (h : draw pool home required = .error n) : pool.water < required.val := by
  have hw := water_eq pool home
  simp only [draw] at h
  split at h
  · rename_i hz
    have hv := congrArg Count.val hz
    rw [Count.val_min, Count.val_zero] at hv
    have hlt := drawRichest_eq_error h
    omega
  · rename_i hz
    have htaken := Count.pos_of_ne hz
    rw [Count.val_min] at htaken
    have hmem := Plan.mem_of_on_pos (show 0 < (pool.on home).val by omega)
    have hlt := drawRichest_eq_error (map_eq_error.mp h)
    have hput := Roll.sum_put_of_mem (f := fun y => if y.1 = home then 0 else y.2.val)
      (a := (home, (pool.on home).subDownTo (min (pool.on home) required))) hmem rfl
    simp only [if_true, Count.val_subDownTo, Count.val_min] at hput hlt
    omega

end Allocation
end Watershed
