import Watershed.Proofs.Decimal.Product

namespace Watershed.Decimal

namespace Quotient

theorem room_le (q : Quotient) (n : Nat) : q.room n ≤ n := by
  induction n with
  | zero => exact le_rfl
  | succ n ih =>
    rw [room]
    split
    · exact le_rfl
    · exact ih.trans (Nat.le_succ n)

theorem room_fits (q : Quotient) {n : Nat} (h : 0 < q.room n) :
    (q.room n : Int) + q.scale ≤ scaleMax ∧ q.digits * 10 ^ q.room n < mantissaBound := by
  induction n with
  | zero => cases h
  | succ n ih =>
    rw [room] at h ⊢
    split
    · rename_i hroom
      exact hroom
    · rename_i hroom
      rw [if_neg hroom] at h
      exact ih h

theorem of_room_eq_zero (q : Quotient) {n : Nat} (h : q.room (n + 1) = 0) :
    scaleMax < 1 + q.scale ∨ mantissaBound ≤ q.digits * 10 := by
  induction n with
  | zero =>
    rw [room] at h
    split at h
    · cases h
    · rename_i hroom
      rw [not_and_or, not_le, not_lt] at hroom
      exact hroom
  | succ n ih =>
    rw [room] at h
    split at h
    · cases h
    · exact ih h

structure Under (divisor : Nat) (x : ℚ) (q : Quotient) (s : Nat) : Prop where
  scale : q.scale = s
  places : s ≤ scaleMax
  rest : q.rest < divisor
  value : x * 10 ^ s = q.digits + q.rest / divisor

def Reaches (x : ℚ) (q : Quotient) : Prop :=
  ∃ s : Nat, q.scale = s ∧ s ≤ scaleMax ∧ q.digits < mantissaBound ∧ Fitted x (q.digits / 10 ^ s)

section

variable {divisor s : Nat} {x : ℚ} {q : Quotient}

theorem Under.nonneg (h : Under divisor x q s) : 0 ≤ x := by
  have hpos : (0 : ℚ) < 10 ^ s := by positivity
  refine nonneg_of_mul_nonneg_left (?_ : 0 ≤ x * 10 ^ s) hpos
  rw [h.value]
  positivity

theorem Under.fraction_lt (h : Under divisor x q s) : (q.rest / divisor : ℚ) < 1 := by
  have hpos : (0 : ℚ) < divisor := Nat.cast_pos.mpr (Nat.zero_lt_of_lt h.rest)
  exact (div_lt_one hpos).mpr (Nat.cast_lt.mpr h.rest)

theorem Under.digits_le (h : Under divisor x q s) : (q.digits : ℚ) ≤ x * 10 ^ s := by
  rw [h.value]
  exact le_add_of_nonneg_right (by positivity)

theorem Under.lt (h : Under divisor x q s) : x * 10 ^ s < q.digits + 1 := by
  have hlt := h.fraction_lt
  rw [h.value]
  linarith

theorem Under.lt_bound (h : Under divisor x q s) (hroom : q.digits < mantissaBound) :
    x * 10 ^ s < bound := by
  refine h.lt.trans_le ?_
  show (q.digits : ℚ) + 1 ≤ (mantissaBound : Nat)
  exact_mod_cast hroom

theorem Under.reaches (h : Under divisor x q s) (hroom : q.digits < mantissaBound)
    (hrest : q.rest = 0) : Reaches x q := by
  have hvalue := h.value
  rw [hrest, Nat.cast_zero, zero_div, add_zero] at hvalue
  refine ⟨s, h.scale, h.places, hroom, ?_⟩
  rw [← hvalue, mul_div_cancel_right₀ _ (by positivity)]
  exact fitted_self h.places hroom hvalue

theorem Under.finish (h : Under divisor x q s) (hroom : q.digits < mantissaBound)
    (hx : x < bound - 1 / 2) (hmost : s < scaleMax → mantissaBound ≤ q.digits * 10) :
    ∃ q', q.finish divisor = some q' ∧ Reaches x q' := by
  have hpos : (0 : ℚ) < 10 ^ s := by positivity
  have hnear := nearest_of_rest q.digits h.rest
  rw [← h.value] at hnear
  unfold Quotient.finish
  rw [h.scale, if_neg (by omega)]
  dsimp only
  generalize (if divisor < 2 * q.rest ∨ (2 * q.rest = divisor ∧ q.digits % 2 = 1)
    then q.digits + 1 else q.digits) = d at *
  have hfit (r : ℚ) (hr : r * 10 ^ s = carried d) : Fitted x r := by
    refine .intro s d h.nonneg h.places (h.lt_bound hroom) (fun hlt => ?_) hnear hr
    calc bound ≤ (q.digits * 10 : Nat) := bound_le_cast.mpr (hmost hlt)
      _ = q.digits * 10 := by push_cast; rfl
      _ ≤ x * 10 ^ s * 10 := by gcongr; exact h.digits_le
      _ = x * 10 ^ (s + 1) := by rw [pow_succ, mul_assoc]
  split
  · rename_i hlt
    refine ⟨_, rfl, s, rfl, h.places, hlt, hfit _ ?_⟩
    rw [div_mul_cancel₀ _ hpos.ne', carried, if_pos hlt]
  · rename_i hge
    have hbound : d = mantissaBound :=
      le_antisymm (hnear.le_bound (h.lt_bound hroom)) (Nat.not_lt.mp hge)
    cases s with
    | zero =>
      -- before the point, a number is not rounded up to the bound
      have hlow := (abs_le.mp hnear.1).1
      have hhigh := bound_le_cast.mpr (Nat.not_lt.mp hge)
      rw [pow_zero, mul_one] at hlow
      linarith
    | succ s =>
      rw [if_neg (by omega)]
      refine ⟨_, rfl, s, by push_cast; ring, Nat.le_of_succ_le h.places, ?_, hfit _ ?_⟩
      · rw [hbound]
        exact (by decide : halfEven mantissaBound 10 < mantissaBound)
      · rw [carried, if_neg hge, hbound, pow_succ, ← mul_assoc, div_mul_cancel₀ _ (by positivity),
          Nat.cast_mul, Nat.cast_ofNat, mul_comm]

theorem Under.dropLast (h : Under divisor x q (s + 1)) (hgreat : mantissaBound ≤ q.digits)
    (hroom : x * 10 ^ s + 1 < bound) : ∃ q', q.dropLast = some q' ∧ Reaches x q' := by
  have hpos : (0 : ℚ) < 10 ^ s := by positivity
  have hrest : (q.rest / divisor : ℚ) ≠ 0 ↔ q.rest ≠ 0 := by
    have hdivisor : (divisor : ℚ) ≠ 0 := Nat.cast_ne_zero.mpr (Nat.ne_zero_of_lt h.rest)
    rw [div_ne_zero_iff, and_iff_left hdivisor, Nat.cast_ne_zero]
  have hvalue : x * 10 ^ s = (q.digits / 10 : Nat) +
      ((q.digits % 10 : Nat) + q.rest / divisor : ℚ) / 10 := by
    have hsplit := cast_div_eq q.digits (d := 10) (by decide)
    have hten := h.value
    rw [pow_succ, ← mul_assoc] at hten
    push_cast at hsplit ⊢
    linarith
  have hnear := nearest_of_digit (q.digits / 10) (Nat.mod_lt q.digits (show 10 > 0 by decide))
    (by positivity) h.fraction_lt
  simp only [hrest, ← hvalue] at hnear
  unfold Quotient.dropLast
  rw [h.scale, if_neg (by push_cast; omega)]
  dsimp only
  generalize (if 5 < q.digits % 10 ∨ (q.digits % 10 = 5 ∧ (q.rest ≠ 0 ∨ q.digits / 10 % 2 = 1))
    then q.digits / 10 + 1 else q.digits / 10) = d at *
  have hd : d < mantissaBound := by
    have hlow := (abs_le.mp hnear.1).1
    exact cast_lt_bound.mp (by linarith)
  refine ⟨_, rfl, s, by push_cast; ring, Nat.le_of_succ_le h.places, hd, ?_⟩
  refine .intro s d h.nonneg (Nat.le_of_succ_le h.places) (by linarith) (fun _ => ?_) hnear ?_
  · exact (bound_le_cast.mpr hgreat).trans h.digits_le
  · rw [carried, if_pos hd, div_mul_cancel₀ _ hpos.ne']

theorem Under.next (h : Under divisor x q s) {p : Nat} (hp : s + p ≤ scaleMax) (c : Bool) :
    Under divisor x ⟨q.digits * 10 ^ p + q.rest * 10 ^ p / divisor, q.rest * 10 ^ p % divisor,
      q.scale + p, c⟩ (s + p) := by
  have hdivisor := Nat.zero_lt_of_lt h.rest
  refine ⟨?_, hp, Nat.mod_lt _ hdivisor, ?_⟩
  · rw [h.scale]
    push_cast
    rfl
  · have hsplit := cast_div_eq (q.rest * 10 ^ p) hdivisor
    rw [Nat.cast_add, add_assoc, ← hsplit, pow_add, ← mul_assoc, h.value]
    push_cast
    ring

theorem Under.extend (h : Under divisor x q s) (hroom : q.digits < mantissaBound)
    (hx : x < bound - 1 / 2) {fuel : Nat} (hfuel : scaleMax < fuel + s) :
    ∃ q', extend divisor fuel q = some q' ∧ Reaches x q' := by
  induction fuel generalizing q s with
  | zero =>
    have hplaces := h.places
    omega
  | succ fuel ih =>
    rw [Quotient.extend]
    by_cases hrest : q.rest = 0
    · rw [if_pos ⟨hrest, by rw [h.scale]; omega⟩]
      exact ⟨q, rfl, h.reaches hroom hrest⟩
    rw [if_neg fun h => hrest h.1]
    dsimp only
    rw [if_neg hrest]
    have hnine := q.room_le 9
    rcases Nat.eq_zero_or_pos (q.room 9) with hzero | hpos
    · rw [if_pos hzero]
      have hno := q.of_room_eq_zero hzero
      rw [h.scale] at hno
      refine Under.finish (s := s) ⟨h.scale, h.places, h.rest, h.value⟩ hroom hx fun hlt => ?_
      exact hno.resolve_left (by omega)
    · obtain ⟨hscale, hfits⟩ := q.room_fits hpos
      rw [h.scale] at hscale
      generalize q.room 9 = p at *
      rw [if_neg hpos.ne', Nat.pow_eq, if_neg (Nat.not_le.mpr hfits)]
      have hnext := h.next (p := p) (by omega) (q.continued || q.rest ≠ 0)
      split
      · rename_i hgreat
        obtain ⟨t, rfl⟩ : ∃ t, p = t + 1 := ⟨p - 1, by omega⟩
        refine Under.dropLast (s := s + t) hnext hgreat ?_
        -- the digits before the step are below a tenth of the bound
        have hpow : (10 : ℚ) ^ t ≤ 10 ^ 8 := pow_le_pow_right₀ (by norm_num) (by omega)
        have htenth : (q.digits * 10 ^ t * 10 : ℚ) < bound := by
          rw [mul_assoc, ← pow_succ]
          exact_mod_cast cast_lt_bound.mpr hfits
        have hlow := mul_lt_mul_of_pos_right h.lt (show (0 : ℚ) < 10 ^ t by positivity)
        have hbound := bound_eq
        rw [pow_add, ← mul_assoc]
        linarith
      · rename_i hlt
        exact ih hnext (Nat.not_le.mp hlt) (by omega)

end

end Quotient

structure Stripped (m r : Nat × Nat) : Prop where
  mantissa_le : r.1 ≤ m.1
  scale_le : r.2 ≤ m.2
  value : (r.1 / 10 ^ r.2 : ℚ) = m.1 / 10 ^ m.2

theorem Stripped.refl (m : Nat × Nat) : Stripped m m := ⟨le_rfl, le_rfl, rfl⟩

theorem Stripped.trans {m r t : Nat × Nat} (h : Stripped m r) (h' : Stripped r t) : Stripped m t :=
  ⟨h'.mantissa_le.trans h.mantissa_le, h'.scale_le.trans h.scale_le, h'.value.trans h.value⟩

theorem stripZeros_stripped (n : Nat) (m : Nat × Nat) : Stripped m (stripZeros n m) := by
  unfold stripZeros
  split
  · rename_i h
    obtain ⟨hn, hzero⟩ := h
    obtain ⟨k, hk⟩ := Nat.exists_eq_add_of_le hn
    refine ⟨Nat.div_le_self _ _, Nat.sub_le _ _, ?_⟩
    have hdiv := cast_div_eq m.1 (Nat.pow_pos (by decide) : 0 < 10 ^ n)
    rw [Nat.pow_eq] at hzero ⊢
    rw [hzero, Nat.cast_zero, zero_div, add_zero] at hdiv
    rw [← hdiv, hk, Nat.add_sub_cancel_left, Nat.cast_pow, Nat.cast_ofNat, div_div, ← pow_add]
  · exact .refl m

theorem stripQuotient_stripped (m : Nat × Nat) : Stripped m (stripQuotient m) := by
  have height (m : Nat × Nat) :
      Stripped m (if m.1 % 4294967296 = 0 then stripZeros 8 m else m) := by
    split
    · exact stripZeros_stripped 8 m
    · exact .refl m
  have heights (l : List Nat) (m : Nat × Nat) :
      Stripped m (l.foldl (fun m _ => if m.1 % 4294967296 = 0 then stripZeros 8 m else m) m) := by
    induction l generalizing m with
    | nil => exact .refl m
    | cons _ l ih => exact (height m).trans (ih _)
  exact (((heights _ m).trans (stripZeros_stripped 4 _)).trans (stripZeros_stripped 2 _)).trans
    (stripZeros_stripped 1 _)

theorem Quotient.Reaches.written {x : ℚ} {q : Quotient} (h : q.Reaches x) {m : Nat × Nat}
    (hm : m = if q.continued then stripQuotient (q.digits, q.scale.toNat)
      else (q.digits, q.scale.toNat)) :
    (m.1 < mantissaBound ∧ m.2 ≤ scaleMax) ∧ Fitted x (m.1 / 10 ^ m.2) := by
  obtain ⟨s, hs, hplaces, hdigits, hfit⟩ := h
  have hscale : q.scale.toNat = s := by omega
  rw [hscale] at hm
  have hstripped : Stripped (q.digits, s) m := by
    rw [hm]
    split
    · exact stripQuotient_stripped _
    · exact .refl _
  refine ⟨⟨hstripped.mantissa_le.trans_lt hdigits, hstripped.scale_le.trans hplaces⟩, ?_⟩
  rw [hstripped.value]
  exact hfit

section

variable {c : Count}

theorem fits_div (a : Decimal) (hc : 0 < c.val) : Fits (a.value / c.val) := by
  have hle : |a.value / c.val| ≤ |a.value| := by
    rw [abs_div, Nat.abs_cast]
    exact div_le_self (abs_nonneg _) (Nat.one_le_cast.mpr hc)
  exact hle.trans_lt (rounded_value a).fits

theorem under_start (a : Decimal) (hc : 0 < c.val) :
    Quotient.Under (ofCount c).mantissa |a.value / c.val|
      ⟨a.mantissa / (ofCount c).mantissa, a.mantissa % (ofCount c).mantissa,
        (a.scale : Int) - (ofCount c).scale, false⟩ a.scale := by
  refine ⟨Int.sub_zero _, a.scale_le, Nat.mod_lt _ hc, ?_⟩
  rw [abs_div, abs_value, Nat.abs_cast, div_right_comm, div_mul_cancel₀ _ (by positivity)]
  exact cast_div_eq a.mantissa hc

theorem value_div_nonneg {a d : Decimal}
    (h : d.negative = (a.negative != (ofCount c).negative) ∨ d.mantissa = 0) :
    0 ≤ a.value / c.val * d.value := by
  have hmul := value_mul_nonneg (b := 1) h
  rw [value_one, mul_one] at hmul
  rw [div_mul_eq_mul_div]
  exact div_nonneg hmul (Nat.cast_nonneg _)

theorem div?_ofCount (a : Decimal) (hc : 0 < c.val) :
    ∃ d, a.div? (ofCount c) = some d ∧ Rounded (a.value / c.val) d.value := by
  by_cases ha : a.mantissa = 0
  · refine ⟨0, (if_neg hc.ne').trans (if_pos ha), ?_⟩
    rw [value_eq_zero ha, zero_div, ← value_zero]
    exact rounded_value 0
  have hroom : a.mantissa / c.val < mantissaBound := (Nat.div_le_self _ _).trans_lt a.mantissa_lt
  have hfuel : scaleMax < 60 + a.scale := Nat.lt_of_lt_of_le (by decide) (Nat.le_add_right 60 _)
  obtain ⟨q, hq, hreaches⟩ := (under_start a hc).extend hroom (fits_div a hc) hfuel
  obtain ⟨m, hm⟩ : ∃ m, m = if q.continued then stripQuotient (q.digits, q.scale.toNat)
    else (q.digits, q.scale.toNat) := ⟨_, rfl⟩
  obtain ⟨hroom', hfit⟩ := hreaches.written hm
  have hdiv : a.div? (ofCount c) =
      mk? ((a.negative != (ofCount c).negative) && decide (m.1 ≠ 0)) m.1 m.2 := by
    rw [hm, div?, if_neg (show (ofCount c).mantissa ≠ 0 from hc.ne'), if_neg ha]
    dsimp only
    rw [hq]
    rfl
  obtain ⟨d, hd⟩ : ∃ d, a.div? (ofCount c) = some d := ⟨_, hdiv.trans (dif_pos hroom')⟩
  obtain ⟨hsign, hmantissa, hscale⟩ := mk?_eq_some.mp (hdiv.symm.trans hd)
  refine ⟨d, hd, ?_, value_div_nonneg (negative_or_zero (hmantissa ▸ hsign))⟩
  rw [abs_value d, hmantissa, hscale]
  exact hfit

theorem div?_rounded {a d : Decimal} (h : a.div? (ofCount c) = some d) :
    Rounded (a.value / c.val) d.value := by
  have hc : 0 < c.val := by
    refine Nat.pos_of_ne_zero fun hzero => ?_
    rw [div?, if_pos (show (ofCount c).mantissa = 0 from hzero)] at h
    cases h
  obtain ⟨d', hd, hround⟩ := div?_ofCount a hc
  rw [h] at hd
  exact Option.some.inj hd ▸ hround

end

end Watershed.Decimal
