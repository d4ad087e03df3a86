import Mathlib.Algebra.Order.Group.Nat
import Watershed.Text.Numeral

namespace Watershed.Text

theorem digitIn?_digitChar {base d : Nat} (hd : d < base) (hbase : base ≤ 16) :
    digitIn? base d.digitChar = some d := by
  have hvalue : ∀ d < 16, digitIn? 16 d.digitChar = some d := by decide
  have hd' := hvalue d (by omega)
  unfold digitIn? at hd' ⊢
  rw [Option.filter_eq_some_iff] at hd' ⊢
  exact ⟨hd'.1, by simpa using hd⟩

theorem extend?_append (base n : Nat) (s t : List Char) :
    extend? base n (s ++ t) = (extend? base n s).bind fun m => extend? base m t := by
  induction s generalizing n with
  | nil => rfl
  | cons c s ih =>
    simp only [List.cons_append, extend?, Option.bind_eq_bind]
    cases digitIn? base c with
    | none => rfl
    | some d => exact ih _

theorem extend?_digitChar {base d : Nat} (hd : d < base) (hbase : base ≤ 16) (n : Nat) :
    extend? base n [d.digitChar] = some (n * base + d) := by
  simp only [extend?, digitIn?_digitChar hd hbase, Option.bind_eq_bind, Option.bind_some]

theorem extend?_zeros {base : Nat} (hpos : 0 < base) (hbase : base ≤ 16) (k : Nat) (s : List Char) :
    extend? base 0 (List.replicate k '0' ++ s) = extend? base 0 s := by
  induction k with
  | zero => rfl
  | succ k ih =>
    rw [List.replicate_succ, List.cons_append, ← List.singleton_append, extend?_append,
      show '0' = Nat.digitChar 0 from rfl, extend?_digitChar hpos hbase, Option.bind_some,
      Nat.zero_mul, Nat.zero_add]
    exact ih

theorem extend?_toDigits {base : Nat} (hone : 1 < base) (hbase : base ≤ 16) (n : Nat) :
    extend? base 0 (Nat.toDigits base n) = some n := by
  induction n using Nat.strongRecOn with
  | ind n ih =>
    rw [Nat.toDigits_eq_if hone]
    split
    · rename_i h
      rw [extend?_digitChar h hbase, Nat.zero_mul, Nat.zero_add]
    · rename_i h
      rw [extend?_append, ih (n / base) (Nat.div_lt_self (by omega) hone), Option.bind_some,
        extend?_digitChar (Nat.mod_lt _ (by omega)) hbase, Nat.div_add_mod']

theorem naturalIn?_of_ne_nil {base : Nat} {s : List Char} (h : s ≠ []) :
    naturalIn? base s = extend? base 0 s := by
  cases s with
  | nil => exact absurd rfl h
  | cons c s => rfl

theorem naturalIn?_padded {base : Nat} (hone : 1 < base) (hbase : base ≤ 16) (k n : Nat) :
    naturalIn? base (List.replicate k '0' ++ Nat.toDigits base n) = some n := by
  rw [naturalIn?_of_ne_nil (List.append_ne_nil_of_right_ne_nil _ Nat.toDigits_ne_nil),
    extend?_zeros (by omega) hbase, extend?_toDigits hone hbase]

theorem naturalIn?_toDigits {base : Nat} (hone : 1 < base) (hbase : base ≤ 16) (n : Nat) :
    naturalIn? base (Nat.toDigits base n) = some n :=
  naturalIn?_padded hone hbase 0 n

theorem length_padded {base k n : Nat} (hone : 1 < base) (hk : 0 < k) (h : n < base ^ k) :
    (List.replicate (k - (Nat.toDigits base n).length) '0' ++ Nat.toDigits base n).length = k := by
  have := (Nat.length_toDigits_le_iff hone hk).mpr h
  rw [List.length_append, List.length_replicate]
  omega

theorem isDigit_padded (k n : Nat) :
    ∀ c ∈ List.replicate k '0' ++ Nat.toDigits 10 n, c.isDigit = true := by
  intro c hc
  rcases List.mem_append.mp hc with hc | hc
  · rw [List.eq_of_mem_replicate hc]
    rfl
  · exact Nat.isDigit_of_mem_toDigits (by decide) (by decide) hc

theorem padded_eq_cons (k n : Nat) :
    ∃ c cs, List.replicate k '0' ++ Nat.toDigits 10 n = c :: cs ∧ c.isDigit = true := by
  obtain ⟨c, cs, h⟩ := List.exists_cons_of_ne_nil
    (List.append_ne_nil_of_right_ne_nil (List.replicate k '0') (Nat.toDigits_ne_nil (n := n) (b := 10)))
  exact ⟨c, cs, h, isDigit_padded k n c (h ▸ List.mem_cons_self)⟩

theorem isDigit_toDigits (n : Nat) : ∀ c ∈ Nat.toDigits 10 n, c.isDigit = true := isDigit_padded 0 n

theorem toDigits_eq_cons (n : Nat) : ∃ c cs, Nat.toDigits 10 n = c :: cs ∧ c.isDigit = true :=
  padded_eq_cons 0 n

theorem toDigits_eq_zero_cons {base : Nat} (hone : 1 < base) {n : Nat} {s : List Char}
    (h : Nat.toDigits base n = '0' :: s) : n = 0 ∧ s = [] := by
  induction n using Nat.strongRecOn generalizing s with
  | ind n ih =>
    rw [Nat.toDigits_eq_if hone] at h
    split at h
    · rw [List.cons.injEq, Nat.digitChar_eq_zero] at h
      exact ⟨h.1, h.2.symm⟩
    · rename_i hn
      cases hd : Nat.toDigits base (n / base) with
      | nil => exact absurd hd Nat.toDigits_ne_nil
      | cons c cs =>
        rw [hd, List.cons_append, List.cons.injEq] at h
        obtain ⟨hzero, _⟩ := ih (n / base) (Nat.div_lt_self (by omega) hone) (h.1 ▸ hd)
        exact absurd (Nat.div_pos (Nat.not_lt.mp hn) (by omega)) (by omega)

theorem extend?_lt {base : Nat} {s : List Char} {n m : Nat} (h : extend? base n s = some m) :
    m < (n + 1) * base ^ s.length := by
  induction s generalizing n with
  | nil =>
    cases h
    simp
  | cons c s ih =>
    obtain ⟨d, hd, h⟩ := Option.bind_eq_some_iff.mp h
    have hlt : d < base := by simpa using (Option.filter_eq_some_iff.mp hd).2
    refine Nat.lt_of_lt_of_le (ih h) ?_
    rw [List.length_cons, Nat.pow_succ', ← Nat.mul_assoc]
    refine Nat.mul_le_mul_right _ ?_
    rw [Nat.add_mul, Nat.one_mul]
    omega

theorem natural?_lt {s : List Char} {n : Nat} (h : natural? s = some n) : n < 10 ^ s.length := by
  cases s with
  | nil => cases h
  | cons c s => simpa using extend?_lt h

end Watershed.Text
