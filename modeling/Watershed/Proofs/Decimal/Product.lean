import Watershed.Proofs.Decimal.Fitting

namespace Watershed.Decimal

section

variable {m s k : Nat}

theorem cast_div_pow (hk : k ≤ s) : (m / 10 ^ s : ℚ) * 10 ^ (s - k) = m / (10 ^ k : Nat) := by
  obtain ⟨t, rfl⟩ := Nat.exists_eq_add_of_le hk
  rw [Nat.add_sub_cancel_left, pow_add, Nat.cast_pow, Nat.cast_ofNat]
  field_simp

theorem cast_div_lt_bound (h : m / 10 ^ k < mantissaBound) : (m / (10 ^ k : Nat) : ℚ) < bound := by
  have hpos : 0 < 10 ^ k := Nat.pow_pos (by decide)
  rw [div_lt_iff₀ (Nat.cast_pos.mpr hpos), bound]
  exact_mod_cast (Nat.div_lt_iff_lt_mul hpos).mp h

theorem bound_le_cast_div (h : mantissaBound ≤ m / 10 ^ k) : bound ≤ m / (10 ^ k : Nat) := by
  have hpos : 0 < 10 ^ k := Nat.pow_pos (by decide)
  rw [le_div_iff₀ (Nat.cast_pos.mpr hpos), bound]
  exact_mod_cast (Nat.le_div_iff_mul_le hpos).mp h

theorem fitted_halfEven (hk : k ≤ s) (hs : s - k ≤ scaleMax) (hroom : m / 10 ^ k < mantissaBound)
    (hmost : k = 0 ∨ s - k = scaleMax ∨ mantissaBound ≤ m / 10 ^ (k - 1)) :
    Fitted (m / 10 ^ s) (carried (halfEven m (10 ^ k)) / 10 ^ (s - k)) := by
  have hpos (n : Nat) : (0 : ℚ) < 10 ^ n := by positivity
  rcases Nat.eq_zero_or_pos k with rfl | hk0
  · rw [pow_zero, Nat.div_one] at hroom
    rw [pow_zero, halfEven_one, carried, if_pos hroom]
    exact fitted_self hs hroom (div_mul_cancel₀ _ (hpos s).ne')
  · refine .intro (s - k) (halfEven m (10 ^ k)) (by positivity) hs ?_ (fun hlt => ?_) ?_
      (div_mul_cancel₀ _ (hpos _).ne')
    · rw [cast_div_pow hk]
      exact cast_div_lt_bound hroom
    · have hgreat := (hmost.resolve_left hk0.ne').resolve_left (Nat.ne_of_lt hlt)
      rw [show s - k + 1 = s - (k - 1) by omega, cast_div_pow (by omega)]
      exact bound_le_cast_div hgreat
    · rw [cast_div_pow hk]
      exact nearest_halfEven m (Nat.pow_pos (by decide))

end

section

variable {negative : Bool} {m s : Nat}

theorem div_places_lt (m s : Nat) : m / 10 ^ max (excess m) (s - scaleMax) < mantissaBound :=
  (Nat.div_le_div_left (Nat.pow_le_pow_right (by decide) (le_max_left _ _)) (by positivity)).trans_lt
    (div_excess_lt m)

theorem fit?_fitted {d : Decimal} (h : fit? negative m s = some d) :
    d.negative = negative ∧ Fitted (m / 10 ^ s) |d.value| := by
  have hroom := div_places_lt m s
  have hmost : max (excess m) (s - scaleMax) = 0 ∨ s - max (excess m) (s - scaleMax) = scaleMax ∨
      mantissaBound ≤ m / 10 ^ (max (excess m) (s - scaleMax) - 1) := by
    rcases le_total (excess m) (s - scaleMax) with hle | hle
    · omega
    · rcases Nat.eq_zero_or_pos (excess m) with hzero | hpos
      · omega
      · rw [max_eq_left hle]
        exact Or.inr (Or.inr (lt_excess_iff.mp (Nat.sub_lt hpos Nat.one_pos)))
  have hplaces : s - max (excess m) (s - scaleMax) ≤ scaleMax := by omega
  unfold fit? at h
  dsimp only at h
  generalize max (excess m) (s - scaleMax) = k at *
  split at h
  · cases h
  rename_i hks
  have hfit := fitted_halfEven (Nat.not_lt.mp hks) hplaces hroom hmost
  rw [Nat.pow_eq] at h
  split at h
  · rename_i hq
    obtain ⟨hn, hm, hscale⟩ := mk?_eq_some.mp h
    rw [abs_value, hm, hscale]
    rw [carried, if_pos hq] at hfit
    exact ⟨hn, hfit⟩
  rename_i hq
  split at h
  · cases h
  rename_i hne
  obtain ⟨hn, hm, hscale⟩ := mk?_eq_some.mp h
  have hbound : halfEven m (10 ^ k) = mantissaBound := by
    have hor := halfEven_eq_or m (10 ^ k)
    omega
  rw [hbound] at hm
  refine ⟨hn, ?_⟩
  rw [carried, if_neg hq, show s - k = s - k - 1 + 1 by omega, Nat.cast_mul, Nat.cast_ofNat, pow_succ',
    mul_div_mul_left _ _ (by norm_num)] at hfit
  rw [abs_value, hm, hscale]
  exact hfit

theorem not_fits_of_fit?_eq_none (h : fit? negative m s = none) : ¬ Fits (m / 10 ^ s) := by
  have hroom := div_places_lt m s
  have hpow : ((10 : Nat) ^ s : Nat) = (10 : ℚ) ^ s := by push_cast; rfl
  rw [Fits, abs_of_nonneg (by positivity), not_lt]
  unfold fit? at h
  dsimp only at h
  split at h
  · -- what is left of the number before the point is too great
    rename_i hs
    have hgreat := bound_le_cast_div (lt_excess_iff.mp (show s < excess m by omega))
    rw [hpow] at hgreat
    linarith
  rename_i hs
  have hplaces : s - max (excess m) (s - scaleMax) ≤ scaleMax := by omega
  generalize max (excess m) (s - scaleMax) = k at *
  rw [Nat.pow_eq] at h
  split at h
  · rename_i hq
    rw [mk?, dif_pos ⟨hq, by omega⟩] at h
    cases h
  rename_i hq
  split at h
  · rename_i hsk
    subst hsk
    have hnear := (abs_le.mp (nearest_halfEven m (Nat.pow_pos (by decide : 0 < 10) (n := s))).1).1
    have hbound := bound_le_cast.mpr (Nat.not_lt.mp hq)
    rw [hpow] at hnear
    linarith
  · rename_i hne
    have hor := halfEven_eq_or m (10 ^ k)
    have hbound : halfEven m (10 ^ k) = mantissaBound := by omega
    rw [hbound, mk?, dif_pos ⟨by decide, by omega⟩] at h
    cases h

end

theorem halfEven_of_lt {n d : Nat} (h : 2 * n < d) : halfEven n d = 0 := by
  rw [halfEven, Nat.div_eq_of_lt (by omega), Nat.mod_eq_of_lt (by omega)]
  exact if_neg (by omega)

theorem value_eq_zero {d : Decimal} (h : d.mantissa = 0) : d.value = 0 := by
  rw [← abs_eq_zero, abs_value, h, Nat.cast_zero, zero_div]

@[simp] theorem value_zero : value 0 = 0 := value_eq_zero rfl

theorem value_mul_nonneg {a b d : Decimal}
    (h : d.negative = (a.negative != b.negative) ∨ d.mantissa = 0) :
    0 ≤ a.value * b.value * d.value := by
  rcases h with h | h
  · rw [value_eq a, value_eq b, value_eq d, h]
    cases a.negative <;> cases b.negative <;> simp <;> positivity
  · rw [value_eq_zero h, mul_zero]

theorem negative_or_zero {d : Decimal} {negative : Bool}
    (h : d.negative = (negative && decide (d.mantissa ≠ 0))) :
    d.negative = negative ∨ d.mantissa = 0 := by
  by_cases hd : d.mantissa = 0
  · exact Or.inr hd
  · rw [decide_eq_true hd, Bool.and_true] at h
    exact Or.inl h

theorem abs_mul_value (a b : Decimal) : |a.value * b.value| =
    ((a.mantissa * b.mantissa : Nat) : ℚ) / 10 ^ (a.scale + b.scale) := by
  rw [abs_mul, abs_value, abs_value, Nat.cast_mul, pow_add, div_mul_div_comm]

theorem fitted_small {m s : Nat} (hm : m < 4294967296 * 4294967296) (hs : scaleMax < s) (hs' : s ≤ 56) :
    Fitted (m / 10 ^ s) (halfEven m (10 ^ (s - scaleMax)) / 10 ^ scaleMax) := by
  have hdiv := Nat.div_le_self m (10 ^ (s - scaleMax))
  have hroom : m / 10 ^ (s - scaleMax) + 1 < mantissaBound := by
    simp only [mantissaBound]
    omega
  have hfit := fitted_halfEven (m := m) (Nat.sub_le s scaleMax) (by omega) (Nat.lt_of_succ_lt hroom)
    (by omega)
  have hor := halfEven_eq_or m (10 ^ (s - scaleMax))
  rw [carried, if_pos (by omega), show s - (s - scaleMax) = scaleMax by omega] at hfit
  exact hfit

theorem mul?_rounded {a b d : Decimal} (h : a.mul? b = some d) : Rounded (a.value * b.value) d.value := by
  unfold mul? at h
  split at h
  · rename_i hzero
    obtain rfl := Option.some.inj h
    have hvalue : a.value * b.value = 0 :=
      mul_eq_zero.mpr (hzero.imp value_eq_zero value_eq_zero)
    rw [hvalue, ← value_zero]
    exact rounded_value 0
  dsimp only at h
  split at h
  · rename_i hsmall
    obtain ⟨ha, hb, hscale⟩ := hsmall
    have hproduct : a.mantissa * b.mantissa < 4294967296 * 4294967296 := Nat.mul_lt_mul'' ha hb
    have hfit := fitted_small hproduct hscale (Nat.add_le_add a.scale_le b.scale_le)
    rw [← abs_mul_value] at hfit
    split at h
    · rename_i hfar
      obtain rfl := Option.some.inj h
      have hpow : 10 ^ 20 ≤ 10 ^ (a.scale + b.scale - scaleMax) :=
        Nat.pow_le_pow_right (by decide) (by unfold scaleMax; omega)
      rw [halfEven_of_lt (by omega), Nat.cast_zero, zero_div] at hfit
      exact ⟨by rw [value_zero, abs_zero]; exact hfit, value_mul_nonneg (Or.inr rfl)⟩
    · rw [Nat.pow_eq] at h
      obtain ⟨hn, hm, hs⟩ := mk?_eq_some.mp h
      exact ⟨by rw [abs_value d, hm, hs]; exact hfit, value_mul_nonneg (negative_or_zero (hm ▸ hn))⟩
  · obtain ⟨hn, hfit⟩ := fit?_fitted h
    rw [← abs_mul_value] at hfit
    exact ⟨hfit, value_mul_nonneg (Or.inl hn)⟩

theorem mul?_eq_none {a b : Decimal} : a.mul? b = none ↔ ¬ Fits (a.value * b.value) := by
  constructor
  · intro h
    unfold mul? at h
    split at h
    · cases h
    dsimp only at h
    split at h
    · rename_i hsmall
      obtain ⟨ha, hb, _⟩ := hsmall
      split at h
      · cases h
      have hproduct : a.mantissa * b.mantissa < 4294967296 * 4294967296 := Nat.mul_lt_mul'' ha hb
      have hdiv := Nat.div_le_self (a.mantissa * b.mantissa) (Nat.pow 10 (a.scale + b.scale - scaleMax))
      have hor := halfEven_eq_or (a.mantissa * b.mantissa) (Nat.pow 10 (a.scale + b.scale - scaleMax))
      rw [mk?, dif_pos ⟨by simp only [mantissaBound]; omega, le_rfl⟩] at h
      cases h
    · have hfits := not_fits_of_fit?_eq_none h
      rw [← abs_mul_value, Fits, abs_abs] at hfits
      exact hfits
  · intro h
    cases hd : a.mul? b with
    | none => rfl
    | some d => exact absurd (mul?_rounded hd).fits h

theorem value_ofCount (c : Count) : (ofCount c).value = c.val := by
  simp [value, signed, ofCount]

theorem value_mul_pow (d : Decimal) {n : Nat} (h : d.scale ≤ n) : d.value * 10 ^ n = d.signedAt n := by
  obtain ⟨k, rfl⟩ := Nat.exists_eq_add_of_le h
  rw [value, signedAt, Nat.add_sub_cancel_left, pow_add, Nat.pow_eq, Int.cast_mul]
  field_simp
  push_cast
  ring

theorem add?_rounded {a b d : Decimal} (h : a.add? b = some d) : Rounded (a.value + b.value) d.value := by
  unfold add? at h
  split at h
  · rename_i ha
    obtain rfl := Option.some.inj h
    rw [value_eq_zero ha, zero_add]
    exact rounded_value b
  split at h
  · rename_i hb
    obtain rfl := Option.some.inj h
    rw [value_eq_zero hb, add_zero]
    exact rounded_value a
  dsimp only at h
  obtain ⟨hn, hfit⟩ := fit?_fitted h
  have hpos : (0 : ℚ) < 10 ^ max a.scale b.scale := by positivity
  generalize hsum : a.signedAt (max a.scale b.scale) + b.signedAt (max a.scale b.scale) = sum at *
  have hvalue : a.value + b.value = sum / 10 ^ max a.scale b.scale := by
    rw [eq_div_iff hpos.ne', add_mul, value_mul_pow a (le_max_left _ _),
      value_mul_pow b (le_max_right _ _), ← hsum, Int.cast_add]
  have habs : |a.value + b.value| = sum.natAbs / 10 ^ max a.scale b.scale := by
    rw [hvalue, abs_div, abs_of_pos hpos, Nat.cast_natAbs, Int.cast_abs]
  refine ⟨habs ▸ hfit, ?_⟩
  rw [hvalue, value_eq, hn, div_mul_eq_mul_div]
  refine div_nonneg ?_ hpos.le
  by_cases hneg : sum < 0
  · rw [if_pos (decide_eq_true hneg)]
    exact mul_nonneg_of_nonpos_of_nonpos (Int.cast_nonpos.mpr hneg.le) (neg_nonpos.mpr (abs_nonneg _))
  · rw [if_neg (by simpa using hneg)]
    exact mul_nonneg (Int.cast_nonneg (not_lt.mp hneg)) (abs_nonneg _)

theorem le_add? {a b d : Decimal} (h : a.add? b = some d) (hb : 0 ≤ b.value) : a.value ≤ d.value :=
  (rounded_value a).mono (add?_rounded h) (le_add_of_nonneg_right hb)

end Watershed.Decimal
