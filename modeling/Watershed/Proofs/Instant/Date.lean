import Mathlib.Algebra.Order.Group.Nat
import Mathlib.Tactic.IntervalCases
import Watershed.Instant

namespace Watershed.Instant

def daysToYear (year : Nat) : Nat := 365 * year + year / 4 - year / 100

def yearInEra (n : Nat) : Nat := (n - n / 1460 + n / 36524 - n / 146096) / 365

theorem yearInEra_spec {n : Nat} (h : n < 146097) :
    yearInEra n ≤ 399 ∧ daysToYear (yearInEra n) ≤ n ∧
      (n < daysToYear (yearInEra n + 1) ∨ yearInEra n = 399) := by
  -- all days but the last of an era are found by way of its centuries, the quotients by 36524
  by_cases hlast : n = 146096
  · subst hlast
    exact ⟨by decide, by decide, Or.inr (by decide)⟩
  have hyear : yearInEra n = (n - n / 1460 + n / 36524) / 365 := by
    rw [yearInEra, Nat.div_eq_of_lt (show n < 146096 by omega), Nat.sub_zero]
  obtain ⟨k, hk⟩ : ∃ k, k = n / 1460 := ⟨_, rfl⟩
  obtain ⟨c, hc⟩ : ∃ c, c = n / 36524 := ⟨_, rfl⟩
  generalize yearInEra n = year at *
  rw [← hk, ← hc] at hyear
  have hcentury : c ≤ 3 ∧ c ≤ k := by omega
  have hfrom : 100 * c ≤ year := by omega
  have hbefore : year / 4 ≤ k := by omega
  have hstart : daysToYear year ≤ n := by
    unfold daysToYear
    omega
  have huntil : year < 100 * (c + 1) := by
    unfold daysToYear at hstart
    omega
  refine ⟨by omega, hstart, Or.inl ?_⟩
  unfold daysToYear
  by_cases hend : year + 1 = 100 * (c + 1)
  · omega
  · have hsame : (year + 1) / 100 = c := by omega
    have hafter : k ≤ (year + 1) / 4 := by omega
    have hbound : n + c < 365 * (year + 1) + k := by omega
    rw [hsame]
    omega

theorem isLeap_of_day {n : Nat} (h : n < 146097) (era : Int)
    (hday : 365 ≤ n - daysToYear (yearInEra n)) :
    n - daysToYear (yearInEra n) = 365 ∧ isLeap (yearInEra n + era * 400 + 1) = true := by
  obtain ⟨hyear, hstart, hnext⟩ := yearInEra_spec h
  generalize yearInEra n = year at *
  unfold daysToYear at hstart hnext hday ⊢
  unfold isLeap
  rw [Bool.and_eq_true, Bool.or_eq_true, decide_eq_true_eq, decide_eq_true_eq, decide_eq_true_eq]
  rcases hnext with hnext | rfl
  · rw [Nat.succ_div, Nat.succ_div] at hnext
    have hfour : 4 ∣ year + 1 := by
      by_contra hn
      rw [if_neg hn] at hnext
      omega
    have hhundred : ¬ 100 ∣ year + 1 := by
      intro hn
      rw [if_pos hfour, if_pos hn] at hnext
      omega
    rw [if_pos hfour, if_neg hhundred] at hnext
    exact ⟨by omega, by omega, Or.inl (by omega)⟩
  · exact ⟨by omega, by omega, Or.inr (by omega)⟩

def calendarMonth (m : Nat) : Nat := if m < 10 then m + 3 else m - 9

theorem calendarMonth_spec {m : Nat} (h : m ≤ 11) :
    (calendarMonth m + 9) % 12 = m ∧ 1 ≤ calendarMonth m ∧ calendarMonth m ≤ 12 := by
  unfold calendarMonth
  split
  · omega
  · omega

theorem le_monthLength {m d : Nat} (hm : m ≤ 11) (hd : d < daysBefore (m + 1)) {year : Int}
    (hleap : d < 365 ∨ d = 365 ∧ isLeap year = true) :
    d - daysBefore m + 1 ≤ monthLength year (calendarMonth m) := by
  unfold daysBefore at *
  by_cases hfebruary : m = 11
  · subst hfebruary
    rw [show calendarMonth 11 = 2 from rfl, monthLength, if_pos rfl]
    rcases hleap with hleap | ⟨rfl, hleap⟩
    · split
      · omega
      · omega
    · rw [hleap]
      decide
  · unfold monthLength
    interval_cases m
    all_goals simp [calendarMonth]; omega

def dayInEra (day : Int) : Nat := (day - day / 146097 * 146097).toNat

def dayInYear (n : Nat) : Nat := n - daysToYear (yearInEra n)

def monthOf (d : Nat) : Nat := (5 * d + 2) / 153

theorem date_eq (day : Int) :
    date day =
      let n := dayInEra day
      let year := yearInEra n + day / 146097 * 400
      let m := monthOf (dayInYear n)
      (if calendarMonth m ≤ 2 then year + 1 else year, calendarMonth m,
        dayInYear n - daysBefore m + 1) := rfl

theorem dayOf_year (year era : Int) (h : 0 ≤ year ∧ year ≤ 399) :
    365 * (year + era * 400) + (year + era * 400) / 4 - (year + era * 400) / 100 +
      (year + era * 400) / 400 = era * 146097 + (365 * year + year / 4 - year / 100) := by
  omega

theorem monthOf_spec {d : Nat} (h : d ≤ 365) :
    monthOf d ≤ 11 ∧ daysBefore (monthOf d) ≤ d ∧ d < daysBefore (monthOf d + 1) := by
  unfold monthOf daysBefore
  omega

theorem dayInEra_spec (day : Int) :
    dayInEra day < 146097 ∧ day = day / 146097 * 146097 + dayInEra day := by
  unfold dayInEra
  omega

theorem dayInYear_spec {n : Nat} (h : n < 146097) (era : Int) :
    dayInYear n < 365 ∨
      dayInYear n = 365 ∧ isLeap (yearInEra n + era * 400 + 1) = true := by
  rcases Nat.lt_or_ge (dayInYear n) 365 with hd | hd
  · exact Or.inl hd
  · exact Or.inr (isLeap_of_day h era hd)

theorem dayOf_calendar {year : Int} {month m : Nat} (h : (month + 9) % 12 = m) (day : Nat) :
    dayOf (if month ≤ 2 then year + 1 else year) month day =
      365 * year + year / 4 - year / 100 + year / 400 + daysBefore m + day - 1 := by
  unfold dayOf
  rw [h]
  split
  · rw [Int.add_sub_cancel]
  · rfl

theorem dayOf_date (day : Int) : dayOf (date day).1 (date day).2.1 (date day).2.2 = day := by
  obtain ⟨hn, hday⟩ := dayInEra_spec day
  obtain ⟨hyear, hstart, _⟩ := yearInEra_spec hn
  have hd : dayInYear (dayInEra day) ≤ 365 := by
    have := dayInYear_spec hn 0
    omega
  obtain ⟨hm, hbefore, _⟩ := monthOf_spec hd
  have hplace : dayInYear (dayInEra day) =
      dayInEra day - daysToYear (yearInEra (dayInEra day)) := rfl
  unfold daysToYear at hstart hplace
  rw [date_eq]
  dsimp only
  rw [dayOf_calendar (calendarMonth_spec hm).1, dayOf_year _ _ (by omega)]
  omega

theorem date_valid (day : Int) :
    1 ≤ (date day).2.1 ∧ (date day).2.1 ≤ 12 ∧
      1 ≤ (date day).2.2 ∧ (date day).2.2 ≤ monthLength (date day).1 (date day).2.1 := by
  obtain ⟨hn, _⟩ := dayInEra_spec day
  have hleap := dayInYear_spec hn (day / 146097)
  obtain ⟨hm, _, hafter⟩ := monthOf_spec (show dayInYear (dayInEra day) ≤ 365 by omega)
  obtain ⟨_, hmonth⟩ := calendarMonth_spec hm
  rw [date_eq]
  dsimp only
  refine ⟨hmonth.1, hmonth.2, Nat.le_add_left 1 _, le_monthLength hm hafter ?_⟩
  rcases hleap with hd | ⟨hd, hleap⟩
  · exact Or.inl hd
  · have hfebruary : calendarMonth (monthOf 365) ≤ 2 := by decide
    rw [hd, if_pos hfebruary]
    exact Or.inr ⟨rfl, hleap⟩

end Watershed.Instant
