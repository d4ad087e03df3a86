import Watershed.Decimal.Arith
import Mathlib.Algebra.Order.Floor.Div
import Mathlib.Algebra.Order.Ring.Nat

namespace Watershed.Decimal

theorem lt_excess_iff {m k : Nat} : k < excess m ↔ mantissaBound ≤ m / 10 ^ k := by
  induction m using excess.induct generalizing k with
  | case1 m h =>
    rw [excess, if_pos h]
    exact iff_of_false (Nat.not_lt_zero k)
      (Nat.not_le.mpr ((Nat.div_le_self m (10 ^ k)).trans_lt h))
  | case2 m h ih =>
    rw [excess, if_neg h]
    cases k with
    | zero =>
      rw [Nat.pow_zero, Nat.div_one]
      exact iff_of_true (Nat.succ_pos _) (Nat.not_lt.mp h)
    | succ k => rw [Nat.add_lt_add_iff_right, ih, Nat.div_div_eq_div_mul, Nat.pow_succ']

theorem div_excess_lt (m : Nat) : m / 10 ^ excess m < mantissaBound :=
  Nat.lt_of_not_le fun h => absurd (lt_excess_iff.mpr h) (Nat.lt_irrefl _)

theorem halfEven_eq_or (n d : Nat) : halfEven n d = n / d ∨ halfEven n d = n / d + 1 := by
  simp only [halfEven]
  split
  · exact Or.inr rfl
  · exact Or.inl rfl

theorem halfEven_of_even {n d : Nat} (h : n / d % 2 = 0) :
    halfEven n d = if 2 * (n % d) ≤ d then n / d else n / d + 1 := by
  unfold halfEven
  by_cases hle : 2 * (n % d) ≤ d
  · rw [if_pos hle, if_neg (by omega)]
  · rw [if_neg hle, if_pos (by omega)]

theorem halfEven_one (n : Nat) : halfEven n 1 = n := by
  rw [halfEven, Nat.div_one, Nat.mod_one]
  exact if_neg (by omega)

theorem ceilDiv_of_rest {n g d : Nat} (hg : 0 < g) (hgd : g ≤ d) : (d * n + g) ⌈/⌉ d = n + 1 := by
  rw [Nat.ceilDiv_eq_add_pred_div]
  refine Nat.div_eq_of_lt_le ?_ ?_
  · rw [Nat.add_mul, Nat.mul_comm n d]
    omega
  · rw [Nat.add_mul, Nat.add_mul, Nat.mul_comm n d]
    omega

theorem ceilDiv_of_mod_pos {n d : Nat} (hd : 0 < d) (h : 0 < n % d) : n ⌈/⌉ d = n / d + 1 := by
  conv_lhs => rw [← Nat.div_add_mod n d]
  exact ceilDiv_of_rest h (Nat.le_of_lt (Nat.mod_lt n hd))

theorem ceilDiv_of_mod_eq_zero {n d : Nat} (hd : 0 < d) (h : n % d = 0) : n ⌈/⌉ d = n / d := by
  conv_lhs => rw [← Nat.div_add_mod n d, h]
  exact smul_ceilDiv hd (n / d)

theorem ceilDiv_ceilDiv {n a b : Nat} (ha : 0 < a) (hb : 0 < b) :
    n ⌈/⌉ a ⌈/⌉ b = n ⌈/⌉ (a * b) := by
  refine eq_of_forall_ge_iff fun c => ?_
  rw [ceilDiv_le_iff_le_mul hb, ceilDiv_le_iff_le_mul ha,
    ceilDiv_le_iff_le_mul (Nat.mul_pos ha hb), Nat.mul_assoc]

/-- The ceiling of a number of which the last digits are rounded away first. A fraction that is no
more than half of the last place kept is lost with them. -/
theorem ceilDiv_halfEven (n k j : Nat) (hj : 0 < j) :
    halfEven n (10 ^ k) ⌈/⌉ 10 ^ j =
      if 2 * (n % 10 ^ (k + j)) ≤ 10 ^ k then n / 10 ^ (k + j) else n / 10 ^ (k + j) + 1 := by
  have hd : 0 < 10 ^ j := Nat.pow_pos (by decide)
  have hsplit := Nat.div_add_mod (n / 10 ^ k) (10 ^ j)
  have hlt := Nat.mod_lt (n / 10 ^ k) hd
  rw [Nat.pow_add, Nat.mod_mul, ← Nat.div_div_eq_div_mul]
  rcases Nat.eq_zero_or_pos (n / 10 ^ k % 10 ^ j) with hg | hg
  · -- What is kept is a whole number, and an even one of last places.
    have heven : n / 10 ^ k % 2 = 0 := by
      have htwo : 2 ∣ 10 ^ j := dvd_pow (by decide) (Nat.ne_of_gt hj)
      exact Nat.mod_eq_zero_of_dvd (htwo.trans (Nat.dvd_of_mod_eq_zero hg))
    rw [halfEven_of_even heven, hg, Nat.mul_zero, Nat.add_zero (n % 10 ^ k)]
    by_cases hle : 2 * (n % 10 ^ k) ≤ 10 ^ k
    · rw [if_pos hle, if_pos hle, ceilDiv_of_mod_eq_zero hd hg]
    · rw [if_neg hle, if_neg hle]
      rw [hg, Nat.add_zero] at hsplit
      conv_lhs => rw [← hsplit]
      exact ceilDiv_of_rest Nat.one_pos hd
  · -- A fraction is left in what is kept, whichever way the rest is rounded.
    have hmore : 10 ^ k ≤ 10 ^ k * (n / 10 ^ k % 10 ^ j) := Nat.le_mul_of_pos_right _ hg
    have hpos : 0 < 10 ^ k := Nat.pow_pos (by decide)
    rw [if_neg (by omega)]
    rcases halfEven_eq_or n (10 ^ k) with h | h
    · rw [h, ceilDiv_of_mod_pos hd hg]
    · rw [h]
      conv_lhs => rw [← hsplit, Nat.add_assoc]
      exact ceilDiv_of_rest (Nat.succ_pos _) hlt

def keptCeil (n s : Nat) : Nat :=
  if 2 * (n % 10 ^ s) ≤ 10 ^ excess n then n / 10 ^ s else n / 10 ^ s + 1

theorem toCount?_ceil {d : Decimal} (h : d.negative = false) :
    d.ceil.toCount? = Count.ofNat? (d.mantissa ⌈/⌉ 10 ^ d.scale) := by
  unfold ceil
  split
  · rename_i hs
    rw [toCount?, h, hs, Nat.pow_zero, ceilDiv_one]
    exact congrArg Count.ofNat? (Nat.div_one _)
  · rename_i hs
    have hpos : 0 < 10 ^ d.scale := Nat.pow_pos (by decide)
    have hroom : d.mantissa / 10 ^ d.scale + 1 < mantissaBound := by
      have hten : d.mantissa / 10 ^ d.scale ≤ d.mantissa / 10 :=
        Nat.div_le_div_left (Nat.le_self_pow hs 10) (by decide)
      have hm := d.mantissa_lt
      simp only [mantissaBound] at hm ⊢
      omega
    have hwhole {n : Nat} (hn : n < mantissaBound) :
        ((mk? false n 0).getD d).toCount? = Count.ofNat? n := by
      rw [mk?, dif_pos ⟨hn, Nat.zero_le _⟩]
      exact congrArg Count.ofNat? (Nat.div_one n)
    simp only [Nat.pow_eq, h, Bool.false_eq_true, false_or, Bool.false_and]
    split
    · rename_i hr
      rw [Nat.add_zero, hwhole (Nat.lt_of_succ_lt hroom), ceilDiv_of_mod_eq_zero hpos hr]
    · rename_i hr
      rw [hwhole hroom, ceilDiv_of_mod_pos hpos (Nat.pos_of_ne_zero hr)]

theorem ceilDiv_bound (j : Nat) :
    halfEven mantissaBound 10 ⌈/⌉ 10 ^ j = mantissaBound ⌈/⌉ 10 ^ (j + 1) := by
  rw [Nat.pow_succ', ← ceilDiv_ceilDiv (by decide) (Nat.pow_pos (by decide))]
  rfl

theorem fit?_eq {negative : Bool} {n s : Nat} (hs : s ≤ scaleMax) :
    fit? negative n s =
      let q := halfEven n (10 ^ excess n)
      if s < excess n then none
      else if q < mantissaBound then mk? negative q (s - excess n)
      else if s = excess n then none
      else mk? negative (halfEven q 10) (s - excess n - 1) := by
  have hk : max (excess n) (s - scaleMax) = excess n := by omega
  simp only [fit?, hk, Nat.pow_eq]

theorem fit?_eq_none {negative : Bool} {n s : Nat} (hs : s ≤ scaleMax) (h : fit? negative n s = none) :
    mantissaBound ≤ n / 10 ^ s + 1 := by
  have hq := halfEven_eq_or n (10 ^ excess n)
  have hlt := div_excess_lt n
  rw [fit?_eq hs] at h
  dsimp only at h
  split at h
  · rename_i hlow
    exact (lt_excess_iff.mp hlow).trans (Nat.le_succ _)
  split at h
  · rename_i hroom
    rw [mk?, dif_pos ⟨hroom, by omega⟩] at h
    cases h
  split at h
  · rename_i hbound he
    rw [he]
    omega
  · rename_i hbound _
    have hup := halfEven_eq_or (halfEven n (10 ^ excess n)) 10
    have hroom : halfEven (halfEven n (10 ^ excess n)) 10 < mantissaBound := by
      simp only [mantissaBound] at hlt hbound ⊢
      omega
    rw [mk?, dif_pos ⟨hroom, by omega⟩] at h
    cases h

theorem fit?_eq_some {negative : Bool} {n s : Nat} {d : Decimal} (hs : s ≤ scaleMax)
    (h : fit? negative n s = some d) :
    d.negative = negative ∧ excess n ≤ s ∧
      d.mantissa ⌈/⌉ 10 ^ d.scale = halfEven n (10 ^ excess n) ⌈/⌉ 10 ^ (s - excess n) := by
  have hq := halfEven_eq_or n (10 ^ excess n)
  have hlt := div_excess_lt n
  rw [fit?_eq hs] at h
  dsimp only at h
  split at h
  · cases h
  rename_i hlow
  split at h
  · obtain ⟨hn, hm, hscale⟩ := mk?_eq_some.mp h
    exact ⟨hn, Nat.not_lt.mp hlow, by rw [hm, hscale]⟩
  rename_i hbound
  split at h
  · cases h
  rename_i hne
  have he : halfEven n (10 ^ excess n) = mantissaBound := by omega
  have hj : s - excess n = s - excess n - 1 + 1 := by omega
  obtain ⟨hn, hm, hscale⟩ := mk?_eq_some.mp h
  refine ⟨hn, Nat.not_lt.mp hlow, ?_⟩
  rw [hm, hscale, he, hj]
  exact ceilDiv_bound _

theorem fit?_bind_ceil (n : Nat) {s : Nat} (hs : s ≤ scaleMax) :
    ((fit? false n s).bind fun d => d.ceil.toCount?) = Count.ofNat? (keptCeil n s) := by
  have hwhole : n / 10 ^ s ≤ keptCeil n s := by
    unfold keptCeil
    split
    · exact Nat.le_refl _
    · exact Nat.le_succ _
  cases h : fit? false n s with
  | none =>
    have hgreat := fit?_eq_none hs h
    simp only [mantissaBound] at hgreat
    exact (Count.ofNat?_eq_none.mpr (by omega)).symm
  | some d =>
    obtain ⟨hn, hle, hd⟩ := fit?_eq_some hs h
    rw [Option.bind_some, toCount?_ceil hn, hd]
    rcases Nat.eq_or_lt_of_le hle with he | hlt
    · -- No digit is left after the point: the number is whole, or far beyond the counts.
      have hq := halfEven_eq_or n (10 ^ s)
      rw [he, Nat.sub_self, Nat.pow_zero, ceilDiv_one]
      cases s with
      | zero =>
        rw [keptCeil, he, Nat.pow_zero, halfEven_one, Nat.mod_one, Nat.div_one]
        rfl
      | succ s =>
        have hgreat := lt_excess_iff.mp (he ▸ Nat.lt_succ_self s : s < excess n)
        have hten : n / 10 ^ (s + 1) = n / 10 ^ s / 10 := by
          rw [Nat.pow_succ, Nat.div_div_eq_div_mul]
        simp only [mantissaBound] at hgreat
        rw [Count.ofNat?_eq_none.mpr (by omega), Count.ofNat?_eq_none.mpr (by omega)]
    · have hj : excess n + (s - excess n) = s := Nat.add_sub_cancel' hle
      rw [ceilDiv_halfEven n _ _ (by omega), hj]
      rfl

theorem mul?_ofCount_bind_ceil (c : Count) {r : Decimal} (hr : r.negative = false ∨ r.mantissa = 0) :
    (((ofCount c).mul? r).bind fun d => d.ceil.toCount?) =
      Count.ofNat? (keptCeil (c.val * r.mantissa) r.scale) := by
  have hscale : (ofCount c).scale + r.scale = r.scale := Nat.zero_add _
  by_cases hzero : (ofCount c).mantissa = 0 ∨ r.mantissa = 0
  · have hproduct : c.val * r.mantissa = 0 := Nat.mul_eq_zero.mpr hzero
    rw [mul?, if_pos hzero, hproduct, keptCeil, Nat.zero_mod, Nat.zero_div, if_pos (Nat.zero_le _)]
    rfl
  · have hn : ((ofCount c).negative != r.negative) = false := by
      rw [hr.resolve_right fun h => hzero (Or.inr h)]
      rfl
    have hle := r.scale_le
    simp only [mul?, hscale, hn]
    rw [if_neg hzero, if_neg (by omega)]
    exact fit?_bind_ceil (c.val * r.mantissa) hle

theorem keptCeil_eq_or (n s : Nat) : keptCeil n s = n ⌈/⌉ 10 ^ s ∨
    keptCeil n s + 1 = n ⌈/⌉ 10 ^ s ∧ 0 < n % 10 ^ s ∧ n % 10 ^ s * mantissaBound ≤ 5 * n := by
  have hd : 0 < 10 ^ s := Nat.pow_pos (by decide)
  rcases Nat.eq_zero_or_pos (n % 10 ^ s) with hf | hf
  · left
    rw [keptCeil, hf, if_pos (Nat.zero_le _), ceilDiv_of_mod_eq_zero hd hf]
  · have hceil := ceilDiv_of_mod_pos hd hf
    unfold keptCeil
    split
    · rename_i hle
      refine Or.inr ⟨hceil.symm, hf, ?_⟩
      cases hk : excess n with
      | zero =>
        rw [hk, Nat.pow_zero] at hle
        omega
      | succ k =>
        rw [hk, Nat.pow_succ] at hle
        have hgreat := lt_excess_iff.mp (hk ▸ Nat.lt_succ_self k : k < excess n)
        calc n % 10 ^ s * mantissaBound
            ≤ 5 * 10 ^ k * (n / 10 ^ k) := Nat.mul_le_mul (by omega) hgreat
          _ = 5 * (10 ^ k * (n / 10 ^ k)) := Nat.mul_assoc ..
          _ ≤ 5 * n := Nat.mul_le_mul_left 5 (Nat.mul_div_le n _)
    · exact Or.inl hceil.symm

end Watershed.Decimal
