import Watershed.Proofs.Decimal.Rounding
import Watershed.Proofs.Decimal.Value
import Watershed.Proofs.Rainfall
import Mathlib.Algebra.Order.Floor.Semifield
import Mathlib.Data.Rat.Floor

namespace Watershed

namespace RatioSeries

theorem ratioFor_nonneg {s : RatioSeries} (hs : ∀ r ∈ s.ratios, 0 ≤ r.value) (round : Count) :
    0 ≤ (s.ratioFor round).value := by
  have hone : 0 ≤ Decimal.value 1 := by
    rw [Decimal.value_one]
    exact zero_le_one
  unfold ratioFor
  split
  · exact hone
  · rename_i n _
    cases h : s.ratios[n]? with
    | none => exact hone
    | some r => exact hs r (List.mem_of_getElem? h)

end RatioSeries

namespace Rainfall

section Quotients

variable {n d : Nat} (hd : 0 < d)
include hd

theorem ceil_eq_ceilDiv : ⌈(n / d : ℚ)⌉₊ = n ⌈/⌉ d := by
  have hdq : (0 : ℚ) < d := Nat.cast_pos.mpr hd
  refine eq_of_forall_ge_iff fun c => ?_
  rw [Nat.ceil_le, div_le_iff₀ hdq, ceilDiv_le_iff_le_mul hd, mul_comm]
  exact_mod_cast Iff.rfl

theorem fract_le_iff {k : Nat} : Int.fract (n / d : ℚ) ≤ k / d / 2 ↔ 2 * (n % d) ≤ k := by
  have hdq : (0 : ℚ) < d := Nat.cast_pos.mpr hd
  rw [Int.fract_div_natCast_eq_div_natCast_mod, div_right_comm, div_le_div_iff_of_pos_right hdq,
    le_div_iff₀ two_pos, mul_comm]
  exact_mod_cast Iff.rfl

end Quotients

section

variable (round : Count) (b : Board) (s : RatioSeries)

def exactRain : ℚ := Count.total b.demand * (s.ratioFor round).value

def lastPlace : ℚ :=
  (10 ^ Decimal.excess (Count.total b.demand * (s.ratioFor round).mantissa) : Nat) /
    (10 ^ (s.ratioFor round).scale : Nat)

def keptRain : Nat :=
  if Int.fract (exactRain round b s) ≤ lastPlace round b s / 2 then ⌊exactRain round b s⌋₊
  else ⌈exactRain round b s⌉₊

structure Scaled : Prop where
  answer : generate round b (.series (some s)) =
    if h : Count.total b.demand < 2 ^ 64 ∧ keptRain round b s < 2 ^ 64 then
      .ok (⟨keptRain round b s, h.2⟩, .series (some s))
    else .error (.overflow round)
  kept : keptRain round b s = ⌈exactRain round b s⌉₊ ∨
    keptRain round b s + 1 = ⌈exactRain round b s⌉₊ ∧ 0 < Int.fract (exactRain round b s) ∧
      Int.fract (exactRain round b s) * 2 ^ 96 ≤ 5 * exactRain round b s

variable {round b s}

theorem exactRain_eq (hs : ∀ r ∈ s.ratios, 0 ≤ r.value) :
    exactRain round b s = (Count.total b.demand * (s.ratioFor round).mantissa : Nat) /
      ((10 ^ (s.ratioFor round).scale : Nat) : ℚ) := by
  rw [exactRain, Decimal.value_of_nonneg (RatioSeries.ratioFor_nonneg hs round), ← mul_div_assoc,
    Nat.cast_mul]

theorem keptRain_eq (hs : ∀ r ∈ s.ratios, 0 ≤ r.value) : keptRain round b s =
    Decimal.keptCeil (Count.total b.demand * (s.ratioFor round).mantissa)
      (s.ratioFor round).scale := by
  have hd : 0 < 10 ^ (s.ratioFor round).scale := Nat.pow_pos (by decide)
  rw [keptRain, exactRain_eq hs, lastPlace]
  simp only [fract_le_iff hd, Nat.floor_div_eq_div, ceil_eq_ceilDiv hd, Decimal.keptCeil]
  split
  · rfl
  · rename_i hlost
    refine Decimal.ceilDiv_of_mod_pos hd (Nat.pos_of_ne_zero fun hzero => hlost ?_)
    rw [hzero]
    exact Nat.zero_le _

theorem scaled?_eq (hs : ∀ r ∈ s.ratios, 0 ≤ r.value) {total : Count}
    (ht : total.val = Count.total b.demand) :
    scaled? total (s.ratioFor round) = Count.ofNat? (keptRain round b s) := by
  have hr := Decimal.value_nonneg_iff.mp (RatioSeries.ratioFor_nonneg hs round)
  rw [keptRain_eq hs, ← ht]
  exact Decimal.mul?_ofCount_bind_ceil total hr

theorem generate_series_eq (hs : ∀ r ∈ s.ratios, 0 ≤ r.value) :
    generate round b (.series (some s)) =
      if h : Count.total b.demand < 2 ^ 64 ∧ keptRain round b s < 2 ^ 64 then
        .ok (⟨keptRain round b s, h.2⟩, .series (some s))
      else .error (.overflow round) := by
  have hgenerate : generate round b (.series (some s)) =
      (orOverflow round (Count.ofNat? (Count.total b.demand)) >>= fun total =>
        orOverflow round (scaled? total (s.ratioFor round)) >>= fun w =>
          .ok (w, .series (some s))) := rfl
  rw [hgenerate]
  by_cases ht : Count.total b.demand < 2 ^ 64
  · have htotal : Count.ofNat? (Count.total b.demand) = some ⟨Count.total b.demand, ht⟩ :=
      Count.ofNat?_eq_some.mpr rfl
    rw [htotal]
    show (orOverflow round (scaled? ⟨_, ht⟩ (s.ratioFor round)) >>= _) = _
    rw [scaled?_eq hs rfl]
    by_cases hk : keptRain round b s < 2 ^ 64
    · have hkept : Count.ofNat? (keptRain round b s) = some ⟨keptRain round b s, hk⟩ :=
        Count.ofNat?_eq_some.mpr rfl
      rw [hkept, dif_pos ⟨ht, hk⟩]
      rfl
    · rw [Count.ofNat?_eq_none.mpr (Nat.not_lt.mp hk), dif_neg fun h => hk h.2]
      rfl
  · rw [Count.ofNat?_eq_none.mpr (Nat.not_lt.mp ht), dif_neg fun h => ht h.1]
    rfl

theorem keptRain_eq_or (hs : ∀ r ∈ s.ratios, 0 ≤ r.value) :
    keptRain round b s = ⌈exactRain round b s⌉₊ ∨
      keptRain round b s + 1 = ⌈exactRain round b s⌉₊ ∧ 0 < Int.fract (exactRain round b s) ∧
        Int.fract (exactRain round b s) * 2 ^ 96 ≤ 5 * exactRain round b s := by
  have hd : 0 < 10 ^ (s.ratioFor round).scale := Nat.pow_pos (by decide)
  have hdq : (0 : ℚ) < (10 ^ (s.ratioFor round).scale : Nat) := Nat.cast_pos.mpr hd
  rw [keptRain_eq hs, exactRain_eq hs, ceil_eq_ceilDiv hd, Int.fract_div_natCast_eq_div_natCast_mod]
  refine (Decimal.keptCeil_eq_or _ _).imp_right fun ⟨hone, hpos, hle⟩ => ⟨hone, ?_, ?_⟩
  · exact div_pos (Nat.cast_pos.mpr hpos) hdq
  · rw [div_mul_eq_mul_div, ← mul_div_assoc, div_le_div_iff_of_pos_right hdq]
    exact_mod_cast hle

theorem series_scaled (round : Count) (b : Board) (s : RatioSeries)
    (hs : ∀ r ∈ s.ratios, 0 ≤ r.value) : Scaled round b s :=
  ⟨generate_series_eq hs, keptRain_eq_or hs⟩

end

def drizzle : Board :=
  ⟨Roll.empty.put ⟨⟨.ofNat 1⟩, "reed", .clamp 3, 0, .empty, 0⟩, .empty⟩

def eightThirds : RatioSeries :=
  ⟨[⟨false, 26666666666666666666666666667, 28, by decide, by decide⟩]⟩

theorem eightThirds_nonneg : ∀ r ∈ eightThirds.ratios, 0 ≤ r.value := fun r hr => by
  cases List.mem_singleton.mp hr
  exact Decimal.value_nonneg_iff.mpr (Or.inl rfl)

theorem eightThirds_scaled :
    (∀ r ∈ eightThirds.ratios, 0 ≤ r.value) ∧ Scaled 1 drizzle eightThirds :=
  ⟨eightThirds_nonneg, series_scaled 1 drizzle eightThirds eightThirds_nonneg⟩

theorem eightThirds_short : (∀ r ∈ eightThirds.ratios, 0 ≤ r.value) ∧
    Count.total drizzle.demand = 3 ∧ ⌈exactRain 1 drizzle eightThirds⌉₊ = 9 ∧
      generate 1 drizzle (.series (some eightThirds)) = .ok (.clamp 8, .series (some eightThirds)) := by
  have hscaled : scaled? (.clamp 3) (eightThirds.ratioFor 1) = some (.clamp 8) := by
    decide +kernel
  refine ⟨eightThirds_nonneg, rfl, ?_, ?_⟩
  · rw [exactRain_eq eightThirds_nonneg, ceil_eq_ceilDiv (Nat.pow_pos (by decide))]
    rfl
  · show (orOverflow 1 (scaled? (.clamp 3) (eightThirds.ratioFor 1)) >>= _) = _
    rw [hscaled]
    rfl

end Rainfall
end Watershed
