import Watershed.Proofs.Roll.Lookup
import Mathlib.Algebra.Order.BigOperators.Group.List
import Mathlib.Algebra.Order.Ring.Nat

namespace Watershed

theorem Count.total_eq_sum (cs : List Count) : Count.total cs = (cs.map Count.val).sum := by
  induction cs with
  | nil => rfl
  | cons c cs ih => rw [Count.total, List.map_cons, List.sum_cons, ih]

theorem Count.total_map {α : Type} (f : α → Count) (l : List α) :
    total (l.map f) = (l.map fun a => (f a).val).sum := by
  rw [total_eq_sum, List.map_map]
  rfl

theorem Count.le_total {c : Count} {cs : List Count} (h : c ∈ cs) : c.val ≤ Count.total cs := by
  rw [total_eq_sum]
  exact List.le_sum_of_mem (List.mem_map_of_mem h)

theorem Count.exists_ofNat? {n : Nat} (h : n < 18446744073709551616) : ∃ c, ofNat? n = some c :=
  ⟨⟨n, h⟩, ofNat?_eq_some.mpr rfl⟩

theorem Count.pos_of_ne {c : Count} (h : c ≠ 0) : 0 < c.val :=
  Nat.pos_of_ne_zero fun e => h (Count.ext e)

theorem Count.total_map_filter {α : Type} (p : α → Bool) (f : α → Count) (l : List α) :
    Count.total ((l.filter p).map f) = (l.map fun a => if p a then (f a).val else 0).sum := by
  induction l with
  | nil => rfl
  | cons a l ih =>
    by_cases hp : p a = true
    · rw [List.filter_cons_of_pos hp, List.map_cons, Count.total, ih, List.map_cons,
        List.sum_cons, if_pos hp]
    · rw [List.filter_cons_of_neg hp, ih, List.map_cons, List.sum_cons, if_neg hp, Nat.zero_add]

theorem sum_filter_of {α : Type} {p : α → Bool} {f : α → Nat} {l : List α}
    (h : ∀ a ∈ l, p a = false → f a = 0) : ((l.filter p).map f).sum = (l.map f).sum := by
  induction l with
  | nil => rfl
  | cons a l ih =>
    obtain ⟨ha, hl⟩ := List.forall_mem_cons.mp h
    cases hp : p a with
    | true => rw [List.filter_cons_of_pos hp, List.map_cons, List.map_cons, List.sum_cons,
        List.sum_cons, ih hl]
    | false => rw [List.filter_cons_of_neg (Bool.eq_false_iff.mp hp), ih hl, List.map_cons,
        List.sum_cons, ha hp, Nat.zero_add]

theorem sum_map_comm {α β : Type} (f : α → β → Nat) (l : List α) (m : List β) :
    (l.map fun a => (m.map (f a)).sum).sum = (m.map fun b => (l.map fun a => f a b).sum).sum := by
  induction l with
  | nil => simp
  | cons a l ih => simp only [List.map_cons, List.sum_cons, ih, List.sum_map_add]

theorem sum_map_at {ι κ : Type} [DecidableEq κ] {g : ι → κ} {f : ι → Nat} {a : ι} {l : List ι}
    (hl : (l.map g).Nodup) (ha : a ∈ l) :
    (l.map fun b => if g b = g a then f b else 0).sum = f a := by
  induction l with
  | nil => cases ha
  | cons b l ih =>
    obtain ⟨hb, hl⟩ := List.nodup_cons.mp hl
    rw [List.map_cons, List.sum_cons]
    rcases List.mem_cons.mp ha with rfl | ha
    · have hrest : (l.map fun c => if g c = g a then f c else 0).sum = 0 := by
        refine List.sum_eq_zero fun n hn => ?_
        obtain ⟨c, hc, rfl⟩ := List.mem_map.mp hn
        have hne : g c ≠ g a := fun e => hb (e ▸ List.mem_map_of_mem hc)
        exact if_neg hne
      rw [if_pos rfl, hrest, Nat.add_zero]
    · have hne : g b ≠ g a := fun e => hb (e ▸ List.mem_map_of_mem ha)
      rw [if_neg hne, ih hl ha, Nat.zero_add]

theorem sum_labels {ι κ : Type} [DecidableEq κ] (label : ι → κ) (f : ι → Nat) {labels : List κ}
    (hl : labels.Nodup) (l : List ι) :
    (labels.map fun k => (l.map fun x => if label x = k then f x else 0).sum).sum =
      (l.map fun x => if label x ∈ labels then f x else 0).sum := by
  rw [sum_map_comm]
  refine congrArg List.sum (List.map_congr_left fun x _ => ?_)
  split
  · rename_i hx
    have hone := sum_map_at (g := id) (f := fun _ => f x) (by rwa [List.map_id]) hx
    simpa only [id, eq_comm] using hone
  · rename_i hx
    refine List.sum_eq_zero fun n hn => ?_
    obtain ⟨k, hk, rfl⟩ := List.mem_map.mp hn
    have hne : label x ≠ k := fun e => hx (e ▸ hk)
    exact if_neg hne

namespace Roll

variable {α β κ : Type} [Key κ] [Keyed α κ] [Keyed β κ]

def sum (f : α → Nat) (r : Roll α) : Nat := (r.toList.map f).sum

theorem total_map {f : α → Count} {r : Roll α} :
    Count.total (r.toList.map f) = r.sum fun a => (f a).val :=
  Count.total_map f r.toList

theorem total_filter {p : α → Bool} {f : α → Count} {r : Roll α} :
    Count.total ((r.toList.filter p).map f) = r.sum fun a => if p a then (f a).val else 0 :=
  Count.total_map_filter p f r.toList

theorem sum_congr {f g : α → Nat} {r : Roll α} (h : ∀ a ∈ r.toList, f a = g a) :
    r.sum f = r.sum g :=
  congrArg List.sum (List.map_congr_left h)

theorem sum_map {g : α → β} {h : ∀ a, key (g a) = key a} {f : β → Nat} {r : Roll α} :
    (r.map g h).sum f = r.sum fun a => f (g a) := by
  rw [sum, map, List.map_map]
  rfl

theorem sum_add {f g : α → Nat} {r : Roll α} :
    (r.sum fun a => f a + g a) = r.sum f + r.sum g :=
  List.sum_map_add

theorem sum_zero {r : Roll α} : (r.sum fun _ => 0) = 0 := by
  simp [sum]

theorem sum_le {f : α → Nat} {r : Roll α} {n : Nat} (h : ∀ a ∈ r.toList, f a ≤ n) :
    r.sum f ≤ r.size * n := by
  have hle := List.sum_le_card_nsmul (r.toList.map f) n fun m hm => by
    obtain ⟨a, ha, rfl⟩ := List.mem_map.mp hm
    exact h a ha
  rw [List.length_map] at hle
  exact hle

theorem le_sum {f : α → Nat} {r : Roll α} {a : α} (h : a ∈ r.toList) : f a ≤ r.sum f :=
  List.le_sum_of_mem (List.mem_map_of_mem h)

theorem sum_comm {γ ι : Type} [Key ι] [Keyed γ ι] {f : α → γ → Nat} {r : Roll α} {s : Roll γ} :
    (r.sum fun a => s.sum (f a)) = s.sum fun c => r.sum fun a => f a c :=
  sum_map_comm f r.toList s.toList

theorem sum_place {f : α → Nat} {a : α} {l : List α} (h : Ascending l) :
    ((place a l).map f).sum + ((seek (key a) l).map f).getD 0 = (l.map f).sum + f a := by
  induction l with
  | nil => simp [place, seek]
  | cons b l ih =>
    simp only [place, seek]
    split
    · simp [Nat.add_comm]
    · split
      · have hb := ih h.tail
        simp only [List.map_cons, List.sum_cons] at hb ⊢
        omega
      · simp only [List.map_cons, List.sum_cons, Option.map_some, Option.getD_some]
        omega

theorem sum_put {f : α → Nat} {r : Roll α} {a : α} :
    (r.put a).sum f + ((r.find? (key a)).map f).getD 0 = r.sum f + f a :=
  sum_place r.ascending

theorem sum_put_new {f : α → Nat} {r : Roll α} {a : α} (h : r.find? (key a) = none) :
    (r.put a).sum f = r.sum f + f a := by
  have hp := sum_put (f := f) (r := r) (a := a)
  simpa [h] using hp

theorem sum_put_of_mem {f : α → Nat} {r : Roll α} {a b : α} (hb : b ∈ r.toList)
    (hk : key b = key a) : (r.put a).sum f + f b = r.sum f + f a := by
  have hp := sum_put (f := f) (r := r) (a := a)
  simpa [← hk, find?_of_mem hb] using hp

theorem sum_put_same {f : α → Nat} {r : Roll α} {a b : α} (hb : b ∈ r.toList)
    (hk : key b = key a) (hf : f a = f b) : (r.put a).sum f = r.sum f := by
  have hp := sum_put_of_mem (f := f) hb hk
  rw [hf] at hp
  exact Nat.add_right_cancel hp

theorem sum_eq_zero {f : α → Nat} {r : Roll α} (h : ∀ a ∈ r.toList, f a = 0) : r.sum f = 0 :=
  (sum_congr h).trans sum_zero

theorem total_pos {f : α → Count} {r : Roll α} :
    Count.total ((r.toList.filter fun a => 0 < f a).map f) = r.sum fun a => (f a).val := by
  rw [total_filter]
  refine sum_congr fun a _ => ?_
  split
  · rfl
  · rename_i h
    simp only [decide_eq_true_eq, Count.lt_iff, Count.val_zero] at h
    omega

variable [DecidableEq κ]

theorem sum_at_of_mem {f : α → Nat} {r : Roll α} {a : α} (h : a ∈ r.toList) :
    (r.sum fun b => if key b = key a then f b else 0) = f a :=
  sum_map_at (nodup_keys r) h

theorem sum_at {f : α → Nat} {r : Roll α} {k : κ} :
    (r.sum fun a => if key a = k then f a else 0) = ((r.find? k).map f).getD 0 := by
  cases hf : r.find? k with
  | none => exact sum_eq_zero fun a ha => if_neg (find?_eq_none.mp hf a ha)
  | some a =>
    obtain rfl := key_of_find? hf
    exact sum_at_of_mem (mem_of_find? hf)

end Roll
end Watershed
