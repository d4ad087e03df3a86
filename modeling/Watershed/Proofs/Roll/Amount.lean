import Watershed.Proofs.Roll.Sum

namespace Watershed

variable {α κ : Type} [DecidableEq κ]

def amountAt (l : List (κ × Count)) (k : κ) : Nat :=
  (l.map fun x => if x.1 = k then x.2.val else 0).sum

@[simp] theorem amountAt_nil (k : κ) : amountAt [] k = 0 := rfl

theorem amountAt_cons (x : κ × Count) (l : List (κ × Count)) (k : κ) :
    amountAt (x :: l) k = (if x.1 = k then x.2.val else 0) + amountAt l k := rfl

theorem amountAt_append (l l' : List (κ × Count)) (k : κ) :
    amountAt (l ++ l') k = amountAt l k + amountAt l' k := by
  simp [amountAt]

theorem amountAt_of_mem {l : List (κ × Count)} (hl : (l.map (·.1)).Nodup) {x : κ × Count}
    (hx : x ∈ l) : amountAt l x.1 = x.2.val :=
  sum_map_at (g := fun y : κ × Count => y.1) (f := fun y => y.2.val) hl hx

theorem amountAt_of_not_mem {l : List (κ × Count)} {k : κ} (h : ∀ x ∈ l, x.1 ≠ k) :
    amountAt l k = 0 := by
  refine List.sum_eq_zero fun n hn => ?_
  obtain ⟨x, hx, rfl⟩ := List.mem_map.mp hn
  exact if_neg (h x hx)

omit [DecidableEq κ] in
theorem sum_amounts_if (p : Prop) [Decidable p] (l : List (κ × Count)) :
    (l.map fun x => if p then x.2.val else 0).sum = if p then Count.total (l.map (·.2)) else 0 := by
  split
  · rw [Count.total_eq_sum, List.map_map]
    rfl
  · simp

theorem Roll.sum_amountAt [Key κ] [Keyed α κ] {r : Roll α} {p : α → Prop} {w : κ × Count → Prop}
    [DecidablePred p] [DecidablePred w] {l : List (κ × Count)}
    (h : ∀ x ∈ l, ∃ a ∈ r.toList, key a = x.1 ∧ (p a ↔ w x)) :
    (r.sum fun a => if p a then amountAt l (key a) else 0) =
      (l.map fun x => if w x then x.2.val else 0).sum := by
  induction l with
  | nil => simp [Roll.sum]
  | cons x l ih =>
    obtain ⟨a, ha, hk, hp⟩ := h x List.mem_cons_self
    have hsplit : ∀ b ∈ r.toList, (if p b then amountAt (x :: l) (key b) else 0) =
        (if key b = key a then if w x then x.2.val else 0 else 0) +
          if p b then amountAt l (key b) else 0 := by
      intro b hb
      rw [amountAt_cons, ← hk]
      by_cases hba : key b = key a
      · obtain rfl := Roll.eq_of_key hb ha hba
        by_cases hw : w x <;> simp [hp, hw]
      · rw [if_neg (fun e : key a = key b => hba e.symm), if_neg hba, Nat.zero_add, Nat.zero_add]
    rw [Roll.sum_congr hsplit, Roll.sum_add,
      Roll.sum_at_of_mem (f := fun _ => if w x then x.2.val else 0) ha,
      ih fun y hy => h y (List.mem_cons_of_mem _ hy), List.map_cons, List.sum_cons]

end Watershed
