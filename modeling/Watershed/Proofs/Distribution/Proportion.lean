import Watershed.Distribution.Share
import Watershed.Proofs.Roll.Sum
import Mathlib.Algebra.BigOperators.Ring.List
import Mathlib.Algebra.Order.Floor.Div

namespace Watershed.Distribution

variable {α : Type}

theorem sum_map_mul_add (f : α → Nat) (s c : Nat) (l : List α) :
    (l.map fun a => f a * s + c).sum = (l.map f).sum * s + l.length * c := by
  rw [List.sum_map_add, List.sum_map_mul_right]
  simp

theorem sum_div_mul_le (f : α → Nat) (s d : Nat) (l : List α) :
    (l.map fun a => f a * s / d).sum * d ≤ (l.map f).sum * s := by
  rw [← List.sum_map_mul_right, ← List.sum_map_mul_right]
  exact List.sum_le_sum fun a _ => Nat.div_mul_le_self (f a * s) d

theorem le_sum_div_mul (f : α → Nat) (s : Nat) {d : Nat} (hd : 0 < d) (l : List α) :
    (l.map f).sum * s + l.length ≤ (l.map fun a => f a * s / d).sum * d + l.length * d := by
  have hpart : ∀ a ∈ l, f a * s + 1 ≤ f a * s / d * d + d := fun a _ => Nat.lt_div_mul_add hd
  have hsum := List.sum_le_sum hpart
  rwa [sum_map_mul_add, sum_map_mul_add, Nat.mul_one] at hsum

theorem le_sum_ceilDiv_mul (f : α → Nat) (s : Nat) {d : Nat} (hd : 0 < d) (l : List α) :
    (l.map f).sum * s ≤ (l.map fun a => f a * s ⌈/⌉ d).sum * d := by
  rw [← List.sum_map_mul_right, ← List.sum_map_mul_right]
  refine List.sum_le_sum fun a _ => ?_
  rw [Nat.mul_comm _ d]
  exact le_smul_ceilDiv hd

theorem sum_ceilDiv_mul_le (f : α → Nat) (s : Nat) {d : Nat} (hd : 0 < d) (l : List α) :
    (l.map fun a => f a * s ⌈/⌉ d).sum * d + l.length ≤ (l.map f).sum * s + l.length * d := by
  have hpart : ∀ a ∈ l, f a * s ⌈/⌉ d * d + 1 ≤ f a * s + d := by
    intro a _
    have hle := Nat.div_mul_le_self (f a * s + d - 1) d
    rw [Nat.ceilDiv_eq_add_pred_div]
    omega
  have hsum := List.sum_le_sum hpart
  rwa [sum_map_mul_add, sum_map_mul_add, Nat.mul_one] at hsum

theorem sum_parts_le (f : α → Nat) (s : Nat) (l : List α) :
    (l.map fun a => f a * s / (l.map f).sum).sum ≤ s := by
  have hle := sum_div_mul_le f s (l.map f).sum l
  rcases Nat.eq_zero_or_pos (l.map f).sum with hw | hw
  · simp [hw]
  · rw [Nat.mul_comm] at hle
    exact Nat.le_of_mul_le_mul_left hle hw

theorem lt_sum_parts_add (f : α → Nat) (s : Nat) {l : List α} (hw : 0 < (l.map f).sum) :
    s < (l.map fun a => f a * s / (l.map f).sum).sum + l.length := by
  have hle := le_sum_div_mul f s hw l
  have hlength : 0 < l.length := by
    cases l with
    | nil => cases hw
    | cons a l => exact Nat.succ_pos _
  rw [← Nat.add_mul, Nat.mul_comm _ s] at hle
  exact Nat.lt_of_mul_lt_mul_right (Nat.lt_of_lt_of_le (Nat.lt_add_of_pos_right hlength) hle)

theorem ceilDiv_le_part (part : Nat) {water whole : Nat} (h : water < whole) :
    part * water ⌈/⌉ whole ≤ part := by
  refine (ceilDiv_le_iff_le_mul (Nat.zero_lt_of_lt h)).mpr ?_
  rw [Nat.mul_comm whole]
  exact Nat.mul_le_mul_left part h.le

theorem div_le_part (part : Nat) {water whole : Nat} (h : water < whole) :
    part * water / whole ≤ part := by
  refine Nat.div_le_of_le_mul ?_
  rw [Nat.mul_comm whole]
  exact Nat.mul_le_mul_left part h.le

def due (whole water part : Nat) : Nat := if whole ≤ water then part else part * water / whole

def dueUp (whole water part : Nat) : Nat := if whole ≤ water then part else part * water ⌈/⌉ whole

theorem due_enough {whole water : Nat} (h : whole ≤ water) (part : Nat) :
    due whole water part = part := if_pos h

theorem due_short {whole water : Nat} (h : water < whole) (part : Nat) :
    due whole water part = part * water / whole := if_neg (Nat.not_le.mpr h)

theorem dueUp_enough {whole water : Nat} (h : whole ≤ water) (part : Nat) :
    dueUp whole water part = part := if_pos h

theorem dueUp_short {whole water : Nat} (h : water < whole) (part : Nat) :
    dueUp whole water part = part * water ⌈/⌉ whole := if_neg (Nat.not_le.mpr h)

theorem due_le (whole water part : Nat) : due whole water part ≤ part := by
  rcases Nat.lt_or_ge water whole with h | h
  · rw [due_short h]
    exact div_le_part part h
  · rw [due_enough h]

theorem dueUp_le (whole water part : Nat) : dueUp whole water part ≤ part := by
  rcases Nat.lt_or_ge water whole with h | h
  · rw [dueUp_short h]
    exact ceilDiv_le_part part h
  · rw [dueUp_enough h]

theorem sum_due_le (f : α → Nat) (water : Nat) (l : List α) :
    (l.map fun a => due (l.map f).sum water (f a)).sum ≤ water := by
  rcases Nat.lt_or_ge water (l.map f).sum with h | h
  · simp only [due_short h]
    exact sum_parts_le f water l
  · simpa only [due_enough h] using h

theorem lt_sum_due_add (f : α → Nat) {water : Nat} {l : List α} (h : water < (l.map f).sum) :
    water < (l.map fun a => due (l.map f).sum water (f a)).sum + l.length := by
  simp only [due_short h]
  exact lt_sum_parts_add f water (Nat.zero_lt_of_lt h)

theorem due_mono (whole : Nat) {water water' part part' : Nat} (hw : water ≤ water')
    (hp : part ≤ part') : due whole water part ≤ due whole water' part' := by
  rcases Nat.lt_or_ge water' whole with h | h
  · rw [due_short h, due_short (hw.trans_lt h)]
    exact Nat.div_le_div_right (Nat.mul_le_mul hp hw)
  · rw [due_enough h]
    exact (due_le whole water part).trans hp

theorem dueUp_mono (whole : Nat) {water water' part part' : Nat} (hw : water ≤ water')
    (hp : part ≤ part') : dueUp whole water part ≤ dueUp whole water' part' := by
  rcases Nat.lt_or_ge water' whole with h | h
  · rw [dueUp_short h, dueUp_short (hw.trans_lt h)]
    exact (gc_mul_ceilDiv (Nat.zero_lt_of_lt h)).monotone_l (Nat.mul_le_mul hp hw)
  · rw [dueUp_enough h]
    exact (dueUp_le whole water part).trans hp

theorem due_le_dueUp (whole water part : Nat) : due whole water part ≤ dueUp whole water part := by
  rcases Nat.lt_or_ge water whole with h | h
  · rw [due_short h, dueUp_short h]
    exact floorDiv_le_ceilDiv (a := whole) (b := part * water)
  · rw [due_enough h, dueUp_enough h]

theorem dueUp_le_due_add_one (whole water part : Nat) :
    dueUp whole water part ≤ due whole water part + 1 := by
  rcases Nat.lt_or_ge water whole with h | h
  · have hpos : 0 < whole := Nat.zero_lt_of_lt h
    rw [due_short h, dueUp_short h]
    refine (ceilDiv_le_iff_le_mul hpos).mpr ?_
    exact (Nat.lt_mul_div_succ (part * water) hpos).le
  · rw [due_enough h, dueUp_enough h]
    exact Nat.le_succ part

theorem sum_due_le_due (whole water : Nat) (f : α → Nat) (l : List α) :
    (l.map fun a => due whole water (f a)).sum ≤ due whole water (l.map f).sum := by
  rcases Nat.lt_or_ge water whole with h | h
  · simp only [due_short h]
    exact (Nat.le_div_iff_mul_le (Nat.zero_lt_of_lt h)).mpr (sum_div_mul_le f water whole l)
  · simp only [due_enough h]
    exact Nat.le_refl _

theorem due_lt_sum_due_add (whole water : Nat) (f : α → Nat) {l : List α} (hl : l ≠ []) :
    due whole water (l.map f).sum < (l.map fun a => due whole water (f a)).sum + l.length := by
  have hlength : 0 < l.length := List.length_pos_iff.mpr hl
  rcases Nat.lt_or_ge water whole with h | h
  · simp only [due_short h]
    have hparts := le_sum_div_mul f water (Nat.zero_lt_of_lt h) l
    rw [← Nat.add_mul] at hparts
    rw [Nat.div_lt_iff_lt_mul (Nat.zero_lt_of_lt h)]
    exact (Nat.lt_add_of_pos_right hlength).trans_le hparts
  · simp only [due_enough h]
    exact Nat.lt_add_of_pos_right hlength

theorem mul_lt_wideTop (a b : Count) : a.val * b.val < Count.wideTop := by
  have h := Nat.mul_le_mul (Nat.le_pred_of_lt a.val_lt) (Nat.le_pred_of_lt b.val_lt)
  exact Nat.lt_of_le_of_lt h (by decide)

theorem div_min {n bound : Nat} (h : n < bound) (whole : Nat) : n / min whole bound = n / whole := by
  rcases Nat.le_total whole bound with hw | hw
  · rw [Nat.min_eq_left hw]
  · rw [Nat.min_eq_right hw, Nat.div_eq_of_lt h, Nat.div_eq_of_lt (h.trans_le hw)]

theorem ceilDiv_eq_one {n d : Nat} (hn : 0 < n) (h : n ≤ d) : n ⌈/⌉ d = 1 := by
  rw [Nat.ceilDiv_eq_add_pred_div]
  exact Nat.div_eq_of_lt_le (by omega) (by omega)

theorem ceilDiv_min {n bound : Nat} (h : n < bound) (whole : Nat) :
    n ⌈/⌉ min whole bound = n ⌈/⌉ whole := by
  rcases Nat.le_total whole bound with hw | hw
  · rw [Nat.min_eq_left hw]
  · rw [Nat.min_eq_right hw]
    rcases Nat.eq_zero_or_pos n with rfl | hn
    · simp
    · rw [ceilDiv_eq_one hn h.le, ceilDiv_eq_one hn (h.le.trans hw)]

theorem wideSum_eq_zero {cs : List Count} : Count.wideSum cs = 0 ↔ Count.total cs = 0 := by
  rw [Count.wideSum, Count.wideTop]
  omega

theorem wideSum_le {cs : List Count} {c : Count} :
    Count.wideSum cs ≤ c.val ↔ Count.total cs ≤ c.val := by
  have hlt := c.val_lt
  rw [Count.wideSum, Count.wideTop]
  omega

theorem proportionDown?_wideSum {cs : List Count} {part : Count} (water : Count)
    (h : part.val ≤ Count.total cs) (hw : Count.total cs ≠ 0) :
    ∃ n : Count, proportionDown? part water (Count.wideSum cs) = some n ∧
      n.val = part.val * water.val / Count.total cs := by
  rw [proportionDown?, if_neg (mt wideSum_eq_zero.mp hw), Count.wideSum,
    div_min (mul_lt_wideTop part water)]
  have hfits : part.val * water.val / Count.total cs < 18446744073709551616 := by
    refine Nat.div_lt_of_lt_mul ((Nat.mul_le_mul_right _ h).trans_lt ?_)
    exact Nat.mul_lt_mul_of_pos_left water.val_lt (Nat.pos_of_ne_zero hw)
  exact ⟨⟨_, hfits⟩, Count.ofNat?_eq_some.mpr rfl, rfl⟩

theorem proportionUp?_wideSum {cs : List Count} {part water : Count}
    (h : water.val < Count.total cs) :
    ∃ n : Count, proportionUp? part water (Count.wideSum cs) = some n ∧
      n.val = part.val * water.val ⌈/⌉ Count.total cs := by
  have hw : Count.total cs ≠ 0 := Nat.ne_zero_of_lt h
  rw [proportionUp?, if_neg (mt wideSum_eq_zero.mp hw), ← Nat.ceilDiv_eq_add_pred_div,
    Count.wideSum, ceilDiv_min (mul_lt_wideTop part water)]
  have hfits := (ceilDiv_le_part part.val h).trans_lt part.val_lt
  exact ⟨⟨_, hfits⟩, Count.ofNat?_eq_some.mpr rfl, rfl⟩

end Watershed.Distribution
