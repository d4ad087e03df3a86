import Watershed.Economy.Revenue
import Watershed.Proofs.Decimal.Quotient

namespace Watershed

namespace Asset

inductive Earns (a : Asset) (full : Decimal) : Decimal → Prop
  | whole (h : a.FullyWatered) : Earns a full full
  | nothing (h : ¬ a.FullyWatered) (hn : a.divisible = false ∨ a.allocated = 0) : Earns a full 0
  | part {scaled r : Decimal} (h : ¬ a.FullyWatered) (hd : a.divisible = true)
    (hw : a.allocated ≠ 0) (hs : full.mul? (.ofCount a.allocated) = some scaled)
    (hr : scaled.div? (.ofCount a.usage) = some r) : Earns a full r

theorem revenue_eq_ok {m : Multipliers} {a : Asset} {r : Decimal} :
    a.revenue m = .ok r ↔ a.revenue? m = some r := by
  unfold revenue
  cases a.revenue? m <;> simp

theorem revenue_eq_error {m : Multipliers} {a : Asset} :
    a.revenue m = .error .overflow ↔ a.revenue? m = none := by
  unfold revenue
  cases a.revenue? m <;> simp

theorem revenue?_eq_some {m : Multipliers} {a : Asset} {r : Decimal} :
    a.revenue? m = some r ↔
      ∃ full, a.nominal.mul? (m.get a.kind a.level) = some full ∧ a.Earns full r := by
  simp only [revenue?, Option.bind_eq_bind, Option.bind_eq_some_iff]
  refine exists_congr fun full => and_congr_right fun _ => ?_
  constructor
  · intro h
    split at h
    · rename_i hw
      obtain rfl := Option.some.inj h
      exact .whole hw
    split at h
    · rename_i hw hn
      obtain rfl := Option.some.inj h
      exact .nothing hw hn
    · rename_i hw hn
      obtain ⟨hd, h0⟩ := not_or.mp hn
      obtain ⟨scaled, hs, hr⟩ := Option.bind_eq_some_iff.mp h
      exact .part hw (by simpa using hd) h0 hs hr
  · rintro (hw | ⟨hw, hn⟩ | ⟨hw, hd, h0, hs, hr⟩)
    · rw [if_pos hw]
    · rw [if_neg hw, if_pos hn]
    · rw [if_neg hw, if_neg (by simp [hd, h0])]
      exact Option.bind_eq_some_iff.mpr ⟨_, hs, hr⟩

def withWater (a : Asset) (c : Count) : Asset := { a with allocated := c }

section

variable {a : Asset} {full : Decimal}

theorem Earns.nonneg (hfull : 0 ≤ full.value) {r : Decimal} (h : a.Earns full r) : 0 ≤ r.value := by
  cases h with
  | whole hw => exact hfull
  | nothing hw hn => exact Decimal.value_zero.ge
  | part hw hd h0 hs hr =>
    have hscaled := ((Decimal.mul?_rounded hs).of_nonneg (by rw [Decimal.value_ofCount]; positivity)).1
    exact ((Decimal.div?_rounded hr).of_nonneg (div_nonneg hscaled (Nat.cast_nonneg _))).1

theorem revenue?_nonneg {m : Multipliers} {r : Decimal} (hnominal : 0 ≤ a.nominal.value)
    (hratio : 0 ≤ (m.get a.kind a.level).value) (h : a.revenue? m = some r) : 0 ≤ r.value := by
  obtain ⟨full, hfull, hr⟩ := revenue?_eq_some.mp h
  exact hr.nonneg ((Decimal.mul?_rounded hfull).of_nonneg (mul_nonneg hnominal hratio)).1

theorem scaled_le {scaled : Decimal} (hfull : 0 ≤ full.value) {c n : Count}
    (h : full.mul? (.ofCount c) = some scaled) (hlt : c.val < n.val) :
    scaled.value ≤ full.value * n.val := by
  have hround := Decimal.mul?_rounded h
  rw [Decimal.value_ofCount] at hround
  obtain ⟨_, hfit⟩ := hround.of_nonneg (by positivity)
  have hwhole : full.value * c.val * 10 ^ Decimal.scaleMax =
      (full.mantissa * 10 ^ (Decimal.scaleMax - full.scale) * c.val : Nat) := by
    rw [mul_right_comm, Nat.cast_mul _ c.val, ← Decimal.abs_value_mul_pow, abs_of_nonneg hfull]
  have hbound := Decimal.bound_eq
  have hpos : (0 : ℚ) < Decimal.bound := by linarith
  have hc : (c.val : ℚ) ≤ 18446744073709551616 := by exact_mod_cast c.val_lt.le
  have hn : (c.val : ℚ) + 1 ≤ n.val := by exact_mod_cast hlt
  refine le_of_mul_le_mul_right ?_ hpos
  calc scaled.value * Decimal.bound
      ≤ full.value * c.val * (Decimal.bound + 45) := hfit.le_of_whole hwhole
    _ = full.value * (c.val * Decimal.bound + 45 * c.val) := by ring
    _ ≤ full.value * (n.val * Decimal.bound) := by
      refine mul_le_mul_of_nonneg_left ?_ hfull
      calc (c.val * Decimal.bound + 45 * c.val : ℚ)
          ≤ c.val * Decimal.bound + Decimal.bound := by linarith
        _ = (c.val + 1) * Decimal.bound := by ring
        _ ≤ n.val * Decimal.bound := mul_le_mul_of_nonneg_right hn hpos.le
    _ = full.value * n.val * Decimal.bound := by ring

theorem Earns.le_full (hfull : 0 ≤ full.value) {r : Decimal} (h : a.Earns full r) :
    r.value ≤ full.value := by
  cases h with
  | whole hw => exact le_rfl
  | nothing hw hn => exact Decimal.value_zero.le.trans hfull
  | @part scaled _ hw hd h0 hs hr =>
    have hlt : a.allocated.val < a.usage.val := Nat.lt_of_not_le hw
    have husage : (0 : ℚ) < a.usage.val := Nat.cast_pos.mpr (Nat.zero_lt_of_lt hlt)
    refine (Decimal.div?_rounded hr).mono (Decimal.rounded_value full) ?_
    exact (div_le_iff₀ husage).mpr (scaled_le hfull hs hlt)

theorem Earns.mono (hfull : 0 ≤ full.value) {c c' : Count} {r r' : Decimal}
    (h : (a.withWater c).Earns full r) (h' : (a.withWater c').Earns full r') (hc : c ≤ c') :
    r.value ≤ r'.value := by
  cases h with
  | whole hw =>
    cases h' with
    | whole => exact le_rfl
    | nothing hw' => exact absurd (Nat.le_trans hw hc) hw'
    | part hw' => exact absurd (Nat.le_trans hw hc) hw'
  | nothing hw hn => exact Decimal.value_zero.le.trans (h'.nonneg hfull)
  | part hw hd h0 hs hr =>
    cases h' with
    | whole => exact Earns.le_full hfull (.part hw hd h0 hs hr)
    | nothing hw' hn =>
      have hd' : (a.withWater c').divisible = true := hd
      obtain rfl : c' = 0 := hn.resolve_left (by simp [hd'])
      exact absurd (Count.ext (Nat.le_zero.mp hc)) h0
    | part hw' hd' h0' hs' hr' =>
      have hscaled := (Decimal.mul?_rounded hs).mono (Decimal.mul?_rounded hs') (by
        rw [Decimal.value_ofCount, Decimal.value_ofCount]
        exact mul_le_mul_of_nonneg_left (Nat.cast_le.mpr hc) hfull)
      exact (Decimal.div?_rounded hr).mono (Decimal.div?_rounded hr')
        (div_le_div_of_nonneg_right hscaled (Nat.cast_nonneg _))

end

structure GrowsWithWater (m : Multipliers) (a : Asset) : Prop where
  mono : ∀ c c' r r', c ≤ c' → (a.withWater c).revenue m = .ok r →
    (a.withWater c').revenue m = .ok r' → r.value ≤ r'.value
  nonneg : ∀ c r, (a.withWater c).revenue m = .ok r → 0 ≤ r.value
  capped : ∀ c r, (a.withWater c).revenue m = .ok r → ∃ full,
    (a.withWater a.usage).revenue m = .ok full ∧ r.value ≤ full.value ∧
      Decimal.Rounded (a.nominal.value * (m.get a.kind a.level).value) full.value
  dry : ∀ r, (a.withWater 0).revenue m = .ok r → r.value = 0

theorem growsWithWater {m : Multipliers} {a : Asset} (husage : 0 < a.usage.val)
    (hnominal : 0 ≤ a.nominal.value) (hratio : 0 ≤ (m.get a.kind a.level).value) :
    GrowsWithWater m a := by
  have hearns {c : Count} {r : Decimal} (h : (a.withWater c).revenue m = .ok r) :
      ∃ full, a.nominal.mul? (m.get a.kind a.level) = some full ∧ 0 ≤ full.value ∧
        (a.withWater c).Earns full r := by
    obtain ⟨full, hfull, hr⟩ := revenue?_eq_some.mp (revenue_eq_ok.mp h)
    exact ⟨full, hfull,
      ((Decimal.mul?_rounded hfull).of_nonneg (mul_nonneg hnominal hratio)).1, hr⟩
  constructor
  · intro c c' r r' hc hr hr'
    obtain ⟨full, hfull, hpos, hr⟩ := hearns hr
    obtain ⟨full', hfull', _, hr'⟩ := hearns hr'
    obtain rfl := Option.some.inj (hfull.symm.trans hfull')
    exact hr.mono hpos hr' hc
  · intro c r hr
    obtain ⟨full, _, hpos, hr⟩ := hearns hr
    exact hr.nonneg hpos
  · intro c r hr
    obtain ⟨full, hfull, hpos, hr⟩ := hearns hr
    refine ⟨full, ?_, hr.le_full hpos, Decimal.mul?_rounded hfull⟩
    exact revenue_eq_ok.mpr (revenue?_eq_some.mpr ⟨full, hfull, .whole (Nat.le_refl _)⟩)
  · intro r hr
    obtain ⟨full, _, _, hr⟩ := hearns hr
    cases hr with
    | whole hw => exact absurd hw (Nat.not_le.mpr husage)
    | nothing => exact Decimal.value_zero
    | part _ _ h0 => exact absurd rfl h0

def due (a : Asset) (ratio : ℚ) : ℚ :=
  if a.FullyWatered then a.nominal.value * ratio
  else if a.divisible = false ∨ a.allocated = 0 then 0
  else a.nominal.value * ratio * a.allocated.val / a.usage.val

structure OverflowsEarly (m : Multipliers) (a : Asset) : Prop where
  overflow : a.revenue m = .error .overflow ↔
    ¬ Decimal.Fits (a.nominal.value * (m.get a.kind a.level).value) ∨
      (¬ a.FullyWatered ∧ a.divisible = true ∧ a.allocated ≠ 0 ∧
        ∃ full, a.nominal.mul? (m.get a.kind a.level) = some full ∧
          ¬ Decimal.Fits (full.value * a.allocated.val))
  due : a.FullyWatered → (a.revenue m = .error .overflow ↔
    ¬ Decimal.Fits (a.due (m.get a.kind a.level).value))

theorem exists_earns {a : Asset} {full : Decimal} : (∃ r, a.Earns full r) ↔
    ¬ (¬ a.FullyWatered ∧ a.divisible = true ∧ a.allocated ≠ 0 ∧
      full.mul? (.ofCount a.allocated) = none) := by
  constructor
  · rintro ⟨r, hr⟩ ⟨hw, hd, h0, hs⟩
    cases hr with
    | whole hw' => exact hw hw'
    | nothing _ hn => rcases hn with hn | hn <;> simp_all
    | part _ _ _ hs' => cases hs.symm.trans hs'
  · intro h
    by_cases hw : a.FullyWatered
    · exact ⟨full, .whole hw⟩
    by_cases hn : a.divisible = false ∨ a.allocated = 0
    · exact ⟨0, .nothing hw hn⟩
    obtain ⟨hd, h0⟩ := not_or.mp hn
    have hd : a.divisible = true := by simpa using hd
    cases hs : full.mul? (.ofCount a.allocated) with
    | none => exact absurd ⟨hw, hd, h0, hs⟩ h
    | some scaled =>
      obtain ⟨r, hr, _⟩ := scaled.div?_ofCount (Nat.zero_lt_of_lt (Nat.lt_of_not_le hw))
      exact ⟨r, .part hw hd h0 hs hr⟩

theorem revenue?_eq_none {m : Multipliers} {a : Asset} :
    a.revenue? m = none ↔ a.nominal.mul? (m.get a.kind a.level) = none ∨
      (¬ a.FullyWatered ∧ a.divisible = true ∧ a.allocated ≠ 0 ∧
        ∃ full, a.nominal.mul? (m.get a.kind a.level) = some full ∧
          full.mul? (.ofCount a.allocated) = none) := by
  rw [Option.eq_none_iff_forall_ne_some]
  simp only [ne_eq, revenue?_eq_some]
  cases a.nominal.mul? (m.get a.kind a.level) with
  | none => simp
  | some full =>
    simp only [Option.some.injEq, exists_eq_left', reduceCtorEq, false_or, ← not_exists, exists_earns,
      not_not]

theorem overflowsEarly (m : Multipliers) (a : Asset) : OverflowsEarly m a := by
  have hoverflow : a.revenue m = .error .overflow ↔
      ¬ Decimal.Fits (a.nominal.value * (m.get a.kind a.level).value) ∨
        (¬ a.FullyWatered ∧ a.divisible = true ∧ a.allocated ≠ 0 ∧
          ∃ full, a.nominal.mul? (m.get a.kind a.level) = some full ∧
            ¬ Decimal.Fits (full.value * a.allocated.val)) := by
    simp only [revenue_eq_error, revenue?_eq_none, Decimal.mul?_eq_none, Decimal.value_ofCount]
  refine ⟨hoverflow, fun hw => ?_⟩
  rw [hoverflow, due, if_pos hw]
  exact or_iff_left fun h => h.1 hw

def bumper : Multipliers := ⟨fun _ => [1, .ofCount (.clamp 2), 1, 1]⟩

def orchard (level allocated : Count) : Asset :=
  ⟨⟨.ofNat 1⟩, "orchard", .crops, level, ⟨.ofNat 2⟩, ⟨.ofNat 3⟩, .clamp 4, allocated, true,
    (Decimal.mk? false 60000000000000000000000000000 0).getD 0⟩

theorem orchard_overflows :
    ((orchard 1 0).revenue bumper = .error .overflow ∧
      (orchard 1 0).due (bumper.get .crops 1).value = 0) ∧
    (orchard (.clamp 2) (.clamp 2)).revenue bumper = .error .overflow ∧
      Decimal.Fits ((orchard (.clamp 2) (.clamp 2)).nominal.value *
        (bumper.get .crops (.clamp 2)).value) ∧
      Decimal.Fits ((orchard (.clamp 2) (.clamp 2)).due (bumper.get .crops (.clamp 2)).value) := by
  unfold Decimal.Fits
  decide +kernel

end Asset
end Watershed
