import Watershed.Proofs.Decimal.Rounding
import Watershed.Proofs.Decimal.Value
import Mathlib.Data.Nat.Find
import Mathlib.Tactic.FieldSimp
import Mathlib.Tactic.Linarith
import Mathlib.Tactic.Ring

namespace Watershed.Decimal

def Nearest (x : ℚ) (n : Nat) : Prop := |x - n| ≤ 1 / 2 ∧ (|x - n| = 1 / 2 → n % 2 = 0)

theorem nearest_of_fraction (q : Nat) {f : ℚ} (hf : 0 ≤ f) (hf' : f ≤ 1) :
    Nearest (q + f) (if 1 / 2 < f ∨ (f = 1 / 2 ∧ q % 2 = 1) then q + 1 else q) := by
  split
  · rename_i h
    have hdist : |(q : ℚ) + f - (q + 1 : Nat)| = 1 - f := by
      rw [Nat.cast_succ, add_sub_add_left_eq_sub, abs_sub_comm, abs_of_nonneg (by linarith)]
    rw [Nearest, hdist]
    rcases h with h | ⟨h, hq⟩
    · exact ⟨by linarith, fun e => by linarith⟩
    · exact ⟨by linarith, fun _ => by omega⟩
  · rename_i h
    obtain ⟨hle, hq⟩ := not_or.mp h
    rw [Nearest, add_sub_cancel_left, abs_of_nonneg hf]
    exact ⟨not_lt.mp hle, fun e => by have := not_and.mp hq e; omega⟩

theorem nearest_of_rest (q : Nat) {r d : Nat} (h : r < d) :
    Nearest (q + r / d) (if d < 2 * r ∨ (2 * r = d ∧ q % 2 = 1) then q + 1 else q) := by
  have hd : (0 : ℚ) < d := Nat.cast_pos.mpr (Nat.zero_lt_of_lt h)
  have hgt : 1 / 2 < (r / d : ℚ) ↔ d < 2 * r := by
    rw [lt_div_iff₀ hd, ← Nat.cast_lt (α := ℚ), Nat.cast_mul, Nat.cast_ofNat]
    constructor <;> intro h <;> linarith
  have heq : (r / d : ℚ) = 1 / 2 ↔ 2 * r = d := by
    rw [div_eq_iff hd.ne', ← Nat.cast_inj (R := ℚ), Nat.cast_mul, Nat.cast_ofNat]
    constructor <;> intro h <;> linarith
  have hnear := nearest_of_fraction q (f := r / d) (by positivity)
    ((div_le_one hd).mpr (Nat.cast_le.mpr h.le))
  simp only [hgt, heq] at hnear
  exact hnear

theorem nearest_of_digit (q : Nat) {r : Nat} (hr : r < 10) {f : ℚ} (hf : 0 ≤ f) (hf' : f < 1) :
    Nearest (q + (r + f) / 10) (if 5 < r ∨ (r = 5 ∧ (f ≠ 0 ∨ q % 2 = 1)) then q + 1 else q) := by
  have hr' : (r : ℚ) ≤ 9 := by exact_mod_cast Nat.le_of_lt_succ hr
  have hnear := nearest_of_fraction q (f := (r + f) / 10) (by positivity) (by linarith)
  have hup : (1 / 2 < (r + f) / 10 ∨ ((r + f) / 10 = 1 / 2 ∧ q % 2 = 1)) ↔
      (5 < r ∨ (r = 5 ∧ (f ≠ 0 ∨ q % 2 = 1))) := by
    rcases lt_trichotomy r 5 with hlt | rfl | hgt
    · have hlt' : (r : ℚ) ≤ 4 := by exact_mod_cast Nat.le_of_lt_succ hlt
      refine iff_of_false ?_ (by omega)
      rintro (h | ⟨h, _⟩) <;> linarith
    · rcases hf.eq_or_lt with rfl | hpos
      · norm_num
      · refine iff_of_true (Or.inl ?_) (Or.inr ⟨rfl, Or.inl hpos.ne'⟩)
        push_cast
        linarith
    · have hgt' : (6 : ℚ) ≤ r := by exact_mod_cast hgt
      exact iff_of_true (Or.inl (by linarith)) (Or.inl hgt)
  simp only [hup] at hnear
  exact hnear

theorem cast_div_eq (n : Nat) {d : Nat} (hd : 0 < d) :
    (n / d : ℚ) = (n / d : Nat) + (n % d : Nat) / d := by
  have hd' : (d : ℚ) ≠ 0 := Nat.cast_ne_zero.mpr hd.ne'
  have hn : (n : ℚ) = d * (n / d : Nat) + (n % d : Nat) := by exact_mod_cast (Nat.div_add_mod n d).symm
  rw [div_eq_iff hd', add_mul, div_mul_cancel₀ _ hd', mul_comm]
  exact hn

theorem nearest_halfEven (n : Nat) {d : Nat} (hd : 0 < d) : Nearest (n / d) (halfEven n d) := by
  rw [cast_div_eq n hd]
  exact nearest_of_rest (n / d) (Nat.mod_lt n hd)

theorem Nearest.mono {x y : ℚ} {n m : Nat} (hn : Nearest x n) (hm : Nearest y m) (h : x ≤ y) :
    n ≤ m := by
  obtain ⟨hx, hx'⟩ := abs_le.mp hn.1
  obtain ⟨hy, hy'⟩ := abs_le.mp hm.1
  by_contra hlt
  have hcast : (m : ℚ) + 1 ≤ n := by exact_mod_cast Nat.lt_of_not_le hlt
  -- both numbers lie half way between the two whole numbers, of which only one is even
  have hsucc : n = m + 1 := by
    have hle : (n : ℚ) ≤ m + 1 := by linarith
    exact le_antisymm (by exact_mod_cast hle) (Nat.lt_of_not_le hlt)
  have hneven := hn.2 (by rw [abs_of_nonpos] <;> linarith)
  have hmeven := hm.2 (by rw [abs_of_nonneg] <;> linarith)
  omega

theorem nearest_natCast (n : Nat) : Nearest n n := by
  simp [Nearest]

theorem Nearest.eq {n m : Nat} (h : Nearest n m) : m = n :=
  le_antisymm (h.mono (nearest_natCast n) le_rfl) ((nearest_natCast n).mono h le_rfl)

def bound : ℚ := (mantissaBound : Nat)

theorem bound_eq : bound = 79228162514264337593543950336 := by norm_num [bound]

theorem cast_lt_bound {n : Nat} : (n : ℚ) < bound ↔ n < mantissaBound := Nat.cast_lt

theorem bound_le_cast {n : Nat} : bound ≤ n ↔ mantissaBound ≤ n := Nat.cast_le

def carried (n : Nat) : Nat := if n < mantissaBound then n else 10 * halfEven mantissaBound 10

theorem le_carried {n : Nat} (h : n ≤ mantissaBound) : n ≤ carried n := by
  unfold carried
  split
  · exact le_rfl
  · exact h.trans (by decide)

theorem carried_le {n : Nat} (h : n ≤ mantissaBound) : carried n ≤ n + 4 := by
  unfold carried
  split
  · exact Nat.le_add_right n 4
  · rename_i hn
    rw [le_antisymm h (Nat.not_lt.mp hn)]
    decide

theorem carried_mono {n m : Nat} (h : n ≤ m) (hm : m ≤ mantissaBound) : carried n ≤ carried m := by
  unfold carried
  split
  · split
    · exact h
    · exact (h.trans hm).trans (by decide)
  · rename_i hn
    rw [if_neg fun hlt => hn (h.trans_lt hlt)]

inductive Fitted (x r : ℚ) : Prop
  | intro (s n : Nat) (hx : 0 ≤ x) (hs : s ≤ scaleMax) (hroom : x * 10 ^ s < bound)
    (hmost : s < scaleMax → bound ≤ x * 10 ^ (s + 1)) (hn : Nearest (x * 10 ^ s) n)
    (hr : r * 10 ^ s = carried n)

theorem Nearest.le_bound {x : ℚ} {n : Nat} (h : Nearest x n) (hx : x < bound) : n ≤ mantissaBound :=
  h.mono (nearest_natCast _) hx.le

theorem Fitted.mono {x y r r' : ℚ} (hr : Fitted x r) (hr' : Fitted y r') (h : x ≤ y) : r ≤ r' := by
  obtain ⟨s, n, hx, hs, hroom, hmost, hn, hr⟩ := hr
  obtain ⟨t, m, hy, ht, hroom', hmost', hm, hr'⟩ := hr'
  have hpow (k : Nat) : (0 : ℚ) < 10 ^ k := by positivity
  have hts : t ≤ s := by
    by_contra hlt
    have hgreat := hmost (by omega)
    have hle : x * 10 ^ (s + 1) ≤ y * 10 ^ t := by
      gcongr
      · norm_num
      · omega
    linarith
  rcases hts.eq_or_lt with rfl | hlt
  · have hnm := hn.mono hm (mul_le_mul_of_nonneg_right h (hpow t).le)
    have hcarried := carried_mono hnm (hm.le_bound hroom')
    refine le_of_mul_le_mul_right ?_ (hpow t)
    rw [hr, hr']
    exact_mod_cast hcarried
  · have hgreat := hmost' (by omega)
    have htenth : halfEven mantissaBound 10 ≤ m := by
      refine (nearest_halfEven mantissaBound (by decide)).mono hm ?_
      rw [pow_succ, ← mul_assoc] at hgreat
      exact (div_le_iff₀ (by norm_num)).mpr hgreat
    have hcarried : carried n ≤ 10 * carried m := by
      refine (carried_mono (hn.le_bound hroom) le_rfl).trans (Nat.mul_le_mul_left 10 ?_)
      exact htenth.trans (le_carried (hm.le_bound hroom'))
    have hr0 : 0 ≤ r' := nonneg_of_mul_nonneg_left (hr' ▸ Nat.cast_nonneg _) (hpow t)
    refine le_of_mul_le_mul_right ?_ (hpow s)
    calc r * 10 ^ s = carried n := hr
      _ ≤ 10 * carried m := by exact_mod_cast hcarried
      _ = r' * 10 ^ (t + 1) := by rw [← hr', pow_succ]; ring
      _ ≤ r' * 10 ^ s := by
        gcongr
        · norm_num
        · omega

theorem exists_places {x : ℚ} {s : Nat} (hs : s ≤ scaleMax) (h : x * 10 ^ s < bound) :
    ∃ t, s ≤ t ∧ t ≤ scaleMax ∧ x * 10 ^ t < bound ∧ (t < scaleMax → bound ≤ x * 10 ^ (t + 1)) := by
  refine ⟨Nat.findGreatest (fun t => x * 10 ^ t < bound) scaleMax, Nat.le_findGreatest hs h,
    Nat.findGreatest_le scaleMax, Nat.findGreatest_spec (P := fun t => x * 10 ^ t < bound) hs h,
    fun hlt => ?_⟩
  exact not_lt.mp (Nat.findGreatest_is_greatest (Nat.lt_succ_self _) hlt)

theorem fitted_self {x : ℚ} {s m : Nat} (hs : s ≤ scaleMax) (hm : m < mantissaBound)
    (hx : x * 10 ^ s = m) : Fitted x x := by
  have hpos : (0 : ℚ) < 10 ^ s := by positivity
  obtain ⟨t, hst, ht, hroom, hmost⟩ := exists_places hs (hx ▸ cast_lt_bound.mpr hm)
  have hwhole : x * 10 ^ t = (m * 10 ^ (t - s) : Nat) := by
    rw [Nat.cast_mul, ← hx, Nat.cast_pow, Nat.cast_ofNat, mul_assoc, ← pow_add, Nat.add_sub_cancel' hst]
  refine .intro t _ (nonneg_of_mul_nonneg_left (hx ▸ Nat.cast_nonneg m) hpos) ht hroom hmost
    (hwhole ▸ nearest_natCast _) ?_
  rw [hwhole, carried, if_pos (cast_lt_bound.mp (hwhole ▸ hroom))]

theorem Fitted.eq_of_self {x r : ℚ} (h : Fitted x r) (hx : Fitted x x) : r = x :=
  le_antisymm (h.mono hx le_rfl) (hx.mono h le_rfl)

theorem Fitted.le_of_whole {x r : ℚ} (h : Fitted x r) {m : Nat} (hm : x * 10 ^ scaleMax = m) :
    r * bound ≤ x * (bound + 45) := by
  obtain ⟨s, n, hx, hs, hroom, hmost, hn, hr⟩ := h
  have hpos : (0 : ℚ) < 10 ^ s := by positivity
  have hbound := bound_eq
  rcases hs.eq_or_lt with rfl | hlt
  · rw [hm] at hn hroom
    obtain rfl := hn.eq
    have hrx : r = x := by
      refine mul_right_cancel₀ hpos.ne' (hr.trans ?_)
      rw [hm, carried, if_pos (cast_lt_bound.mp hroom)]
    rw [hrx]
    exact mul_le_mul_of_nonneg_left (by linarith) hx
  · have hgreat := hmost hlt
    have hcarried : (carried n : ℚ) ≤ n + 4 := by exact_mod_cast carried_le (hn.le_bound hroom)
    have hnear := (abs_le.mp hn.1).1
    rw [pow_succ, ← mul_assoc] at hgreat
    refine le_of_mul_le_mul_right ?_ hpos
    have hup : r * 10 ^ s ≤ x * 10 ^ s + 9 / 2 := by linarith
    calc r * bound * 10 ^ s = r * 10 ^ s * bound := by ring
      _ ≤ (x * 10 ^ s + 9 / 2) * bound := mul_le_mul_of_nonneg_right hup (by linarith)
      _ = x * 10 ^ s * bound + 9 / 2 * bound := add_mul ..
      _ ≤ x * 10 ^ s * bound + 9 / 2 * (x * 10 ^ s * 10) := by linarith
      _ = x * (bound + 45) * 10 ^ s := by ring

def Rounded (x r : ℚ) : Prop := Fitted |x| |r| ∧ 0 ≤ x * r

theorem fitted_zero : Fitted 0 0 := fitted_self (Nat.zero_le _) (by decide) (m := 0) (by simp)

theorem Rounded.of_nonneg {x r : ℚ} (h : Rounded x r) (hx : 0 ≤ x) : 0 ≤ r ∧ Fitted x r := by
  have hr : 0 ≤ r := by
    rcases hx.eq_or_lt with rfl | hpos
    · have hzero := h.1
      rw [abs_zero] at hzero
      exact (abs_eq_zero.mp (hzero.eq_of_self fitted_zero)).ge
    · exact nonneg_of_mul_nonneg_right h.2 hpos
  have hfit := h.1
  rw [abs_of_nonneg hx, abs_of_nonneg hr] at hfit
  exact ⟨hr, hfit⟩

theorem Rounded.of_neg {x r : ℚ} (h : Rounded x r) (hx : x < 0) : r ≤ 0 ∧ Fitted (-x) (-r) := by
  have hr : r ≤ 0 := by
    by_contra hpos
    exact absurd h.2 (not_le.mpr (mul_neg_of_neg_of_pos hx (not_le.mp hpos)))
  have hfit := h.1
  rw [abs_of_neg hx, abs_of_nonpos hr] at hfit
  exact ⟨hr, hfit⟩

theorem Rounded.mono {x y r r' : ℚ} (hr : Rounded x r) (hr' : Rounded y r') (h : x ≤ y) : r ≤ r' := by
  rcases lt_or_ge x 0 with hx | hx
  · obtain ⟨hneg, hfit⟩ := hr.of_neg hx
    rcases lt_or_ge y 0 with hy | hy
    · exact neg_le_neg_iff.mp ((hr'.of_neg hy).2.mono hfit (neg_le_neg h))
    · exact hneg.trans (hr'.of_nonneg hy).1
  · exact (hr.of_nonneg hx).2.mono (hr'.of_nonneg (hx.trans h)).2 h

theorem abs_signed (d : Decimal) : |(d.signed : ℚ)| = d.mantissa := by
  unfold signed
  split
  · rw [Int.cast_neg, abs_neg, Int.cast_natCast, Nat.abs_cast]
  · rw [Int.cast_natCast, Nat.abs_cast]

theorem abs_value (d : Decimal) : |d.value| = d.mantissa / 10 ^ d.scale := by
  rw [value, abs_div, abs_signed, abs_of_pos (by positivity)]

theorem value_eq (d : Decimal) : d.value = if d.negative then -|d.value| else |d.value| := by
  rw [abs_value, value, signed]
  split
  · rw [Int.cast_neg, Int.cast_natCast, neg_div]
  · rw [Int.cast_natCast]

theorem abs_value_lt (d : Decimal) : |d.value| < bound := by
  have hpow : (1 : ℚ) ≤ 10 ^ d.scale := one_le_pow₀ (by norm_num)
  rw [abs_value]
  exact (div_le_self (Nat.cast_nonneg _) hpow).trans_lt (cast_lt_bound.mpr d.mantissa_lt)

theorem abs_value_mul_pow (d : Decimal) :
    |d.value| * 10 ^ scaleMax = (d.mantissa * 10 ^ (scaleMax - d.scale) : Nat) := by
  rw [abs_value, ← Nat.add_sub_cancel' d.scale_le, pow_add, Nat.add_sub_cancel_left, ← mul_assoc,
    div_mul_cancel₀ _ (by positivity)]
  push_cast
  rfl

theorem rounded_value (d : Decimal) : Rounded d.value d.value := by
  refine ⟨fitted_self d.scale_le d.mantissa_lt ?_, mul_self_nonneg _⟩
  rw [abs_value, div_mul_cancel₀ _ (by positivity)]

def Fits (x : ℚ) : Prop := |x| < bound - 1 / 2

theorem Nearest.lt_of_lt_bound {x : ℚ} {n : Nat} (h : Nearest x n) (hn : n < mantissaBound) :
    x < bound - 1 / 2 := by
  have hnear := (abs_le.mp h.1).2
  have hle : (n : ℚ) + 1 ≤ bound := by
    show (n : ℚ) + 1 ≤ (mantissaBound : Nat)
    exact_mod_cast hn
  refine lt_of_le_of_ne (by linarith) fun he => ?_
  -- half way below the bound, the even number is the bound itself
  have hlast : mantissaBound = n + 1 := by
    have hge : bound ≤ (n + 1 : Nat) := by
      push_cast
      linarith
    exact le_antisymm (bound_le_cast.mp hge) hn
  have heven := h.2 (by rw [abs_of_nonneg] <;> linarith)
  simp only [mantissaBound] at hlast
  omega

theorem Rounded.fits {x : ℚ} {d : Decimal} (h : Rounded x d.value) : Fits x := by
  obtain ⟨s, n, hx, hs, hroom, hmost, hn, hr⟩ := h.1
  rcases Nat.eq_zero_or_pos s with rfl | hpos
  · rw [pow_zero, mul_one] at hn hr hroom
    refine hn.lt_of_lt_bound ((le_carried (hn.le_bound hroom)).trans_lt ?_)
    exact cast_lt_bound.mp (hr ▸ abs_value_lt d)
  · have hten : |x| * 10 ≤ |x| * 10 ^ s :=
      mul_le_mul_of_nonneg_left (le_self_pow₀ (by norm_num) hpos.ne') hx
    have hbound := bound_eq
    unfold Fits
    linarith

end Watershed.Decimal
