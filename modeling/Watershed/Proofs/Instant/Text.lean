import Mathlib.Data.List.TakeWhile
import Watershed.Proofs.Instant.Date
import Watershed.Proofs.Text.Numeral

namespace Watershed.Instant

theorem isBlank_of_isDigit {c : Char} (h : c.isDigit = true) : Text.isBlank c = false := by
  simp only [Char.isDigit, Bool.and_eq_true, decide_eq_true_eq] at h
  have hrange : 48 ≤ c.toNat ∧ c.toNat ≤ 57 := h
  simp [Text.isBlank, Text.inRanges, Text.blankRanges]
  omega

theorem dropWhile_isBlank {c : Char} (h : Text.isBlank c = false) (s : List Char) :
    (c :: s).dropWhile Text.isBlank = c :: s :=
  List.dropWhile_cons_of_neg (by simp [h])

theorem isDigit_padded (width n : Nat) : ∀ c ∈ padded width n, c.isDigit = true :=
  Text.isDigit_padded _ n

theorem padded_eq_cons (width n : Nat) : ∃ c cs, padded width n = c :: cs ∧ c.isDigit = true :=
  Text.padded_eq_cons _ n

theorem natural?_padded (width n : Nat) : Text.natural? (padded width n) = some n :=
  Text.naturalIn?_padded (by decide) (by decide) _ n

theorem length_padded {width n : Nat} (hwidth : 0 < width) (h : n < 10 ^ width) :
    (padded width n).length = width :=
  Text.length_padded (by decide) hwidth h

theorem readNumber_padded {width n : Nat} (hwidth : 0 < width) (h : n < 10 ^ width)
    (rest : List Char) : readNumber width (padded width n ++ rest) = some (n, rest) := by
  have hstart : (padded width n ++ rest).dropWhile Text.isBlank = padded width n ++ rest := by
    obtain ⟨c, cs, hcs, hc⟩ := padded_eq_cons width n
    rw [hcs, List.cons_append, dropWhile_isBlank (isBlank_of_isDigit hc)]
  have hlen := length_padded hwidth h
  have hdigits : (padded width n).takeWhile Char.isDigit = padded width n :=
    List.takeWhile_eq_self_iff.mpr (isDigit_padded width n)
  rw [readNumber, hstart, List.take_left' hlen, hdigits, natural?_padded, Option.map_some,
    List.drop_left' rfl]

theorem readDigits_padded (width n : Nat) {c : Char} (hc : c.isDigit = false) (rest : List Char) :
    readDigits (padded width n ++ c :: rest) = some (n, c :: rest) := by
  rw [readDigits, List.takeWhile_append_of_pos (isDigit_padded width n),
    List.dropWhile_append_of_pos (isDigit_padded width n),
    List.takeWhile_cons_of_neg (by simp [hc]), List.dropWhile_cons_of_neg (by simp [hc]),
    List.append_nil, natural?_padded, Option.map_some]

theorem readMark_cons {mark : Char} (h : Text.isBlank mark = false) (rest : List Char) :
    readMark mark (mark :: rest) = some rest := by
  rw [readMark, dropWhile_isBlank h]
  exact if_pos rfl

theorem readYear_digit {c : Char} (h : c.isDigit = true) (s : List Char) :
    readYear (c :: s) = (readNumber 4 (c :: s)).map fun r => ((r.1 : Int), r.2) := by
  rw [readYear, dropWhile_isBlank (isBlank_of_isDigit h)]
  split
  · rename_i hc
    cases hc
    cases h
  · rename_i hc
    cases hc
    cases h
  · rfl

theorem readYear_yearText (year : Int) (rest : List Char) :
    readYear (yearText year ++ '-' :: rest) = some (year, '-' :: rest) := by
  unfold yearText
  split
  · rename_i h
    have hread : readNumber 4 (padded 4 year.toNat ++ '-' :: rest) = some (year.toNat, '-' :: rest) :=
      readNumber_padded (by decide) (by omega) _
    obtain ⟨c, cs, hcs, hc⟩ := padded_eq_cons 4 year.toNat
    rw [hcs, List.cons_append] at hread ⊢
    rw [readYear_digit hc, hread, Option.map_some, Int.toNat_of_nonneg h.1]
  · have hread := readDigits_padded 4 year.natAbs (show Char.isDigit '-' = false by decide) rest
    split
    · show (readDigits (padded 4 year.natAbs ++ '-' :: rest)).map _ = _
      rw [hread]
      exact congrArg (fun y => some (y, _)) (by omega)
    · show (readDigits (padded 4 year.natAbs ++ '-' :: rest)).map _ = _
      rw [hread]
      exact congrArg (fun y => some (y, _)) (by omega)

theorem readFraction_padded {width n : Nat} (hwidth : 0 < width) (hle : width ≤ 9)
    (h : n < 10 ^ width) (rest : List Char) :
    readFraction ('.' :: padded width n ++ 'Z' :: rest) =
      some (n * 10 ^ (9 - width), 'Z' :: rest) := by
  have hlen := length_padded hwidth h
  have hdigits : (padded width n ++ 'Z' :: rest).takeWhile Char.isDigit = padded width n := by
    rw [List.takeWhile_append_of_pos (isDigit_padded width n),
      List.takeWhile_cons_of_neg (by decide), List.append_nil]
  have hkept : (padded width n).take 9 = padded width n := List.take_of_length_le (by omega)
  rw [List.cons_append, readFraction]
  dsimp only
  rw [hdigits, hkept, natural?_padded, Option.map_some, Option.getD_some, List.drop_left' rfl, hlen]
  rfl

theorem readFraction_fractionText {n : Nat} (h : n < nanosOfSecond) (rest : List Char) :
    readFraction (fractionText n ++ 'Z' :: rest) = some (n, 'Z' :: rest) := by
  unfold nanosOfSecond at h
  unfold fractionText
  split
  · rename_i hzero
    rw [hzero]
    rfl
  split
  · rw [readFraction_padded (by decide) (by decide) (by omega)]
    exact congrArg (fun n => some (n, _)) (by omega)
  split
  · rw [readFraction_padded (by decide) (by decide) (by omega)]
    exact congrArg (fun n => some (n, _)) (by omega)
  · rw [readFraction_padded (by decide) (by decide) (by omega)]
    exact congrArg (fun n => some (n, _)) (by omega)

theorem bind_some_eq {α β : Type} {o : Option α} {a : α} (h : o = some a) {f : α → Option β} :
    (o >>= f) = f a := by
  rw [h]
  rfl

theorem read?_parts {year : Int} {month day hour minute second nano : Nat}
    (hmonth : 1 ≤ month ∧ month ≤ 12) (hday : 1 ≤ day ∧ day ≤ monthLength year month)
    (hhour : hour < 24) (hminute : minute < 60) (hsecond : second ≤ 60) (hnano : nano < nanosOfSecond)
    (hreach : inReach (dayOf year month day) = true) :
    read? (yearText year ++ '-' :: (padded 2 month ++ '-' :: (padded 2 day ++ 'T' ::
        (padded 2 hour ++ ':' :: (padded 2 minute ++ ':' ::
          (padded 2 second ++ (fractionText nano ++ ['Z']))))))) =
      at? (dayOf year month day) (hour * 3600 + minute * 60 + (second - second / 60))
        (nano + second / 60 * nanosOfSecond) := by
  have htwo : ∀ n, n < 100 → ∀ rest, readNumber 2 (padded 2 n ++ rest) = some (n, rest) :=
    fun n hn => readNumber_padded (by decide) hn
  have hlength : monthLength year month ≤ 31 := by
    unfold monthLength
    split
    · split
      · decide
      · decide
    · split
      · decide
      · decide
  have hhyphen : ∀ rest, readMark '-' ('-' :: rest) = some rest := readMark_cons (by decide)
  have hcolon : ∀ rest, readMark ':' (':' :: rest) = some rest := readMark_cons (by decide)
  rw [read?]
  refine (bind_some_eq (readYear_yearText year _)).trans ?_
  refine (bind_some_eq (hhyphen _)).trans ?_
  refine (bind_some_eq (htwo month (by omega) _)).trans ?_
  refine (bind_some_eq (hhyphen _)).trans ?_
  refine (bind_some_eq (htwo day (by omega) _)).trans ?_
  refine (if_pos (by rfl)).trans ?_
  refine (bind_some_eq rfl).trans ?_
  refine (bind_some_eq (htwo hour (by omega) _)).trans ?_
  refine (bind_some_eq (hcolon _)).trans ?_
  refine (bind_some_eq (htwo minute (by omega) _)).trans ?_
  refine (bind_some_eq (hcolon _)).trans ?_
  refine (bind_some_eq (htwo second (by omega) _)).trans ?_
  refine (bind_some_eq (readFraction_fractionText hnano _)).trans ?_
  refine (bind_some_eq rfl).trans ?_
  refine (if_neg (by decide)).trans ?_
  refine (if_neg (by omega)).trans ?_
  dsimp only
  generalize dayOf year month day = d at hreach ⊢
  have htotal : d * secondsOfDay + ((hour : Int) * 3600 + (minute : Int) * 60 +
      ((second : Int) - (second / 60 : Nat))) - 0 =
        d * secondsOfDay + (hour * 3600 + minute * 60 + (second - second / 60) : Nat) := by
    omega
  have hclock : hour * 3600 + minute * 60 + (second - second / 60) < 86400 := by omega
  have hlong : (secondsOfDay : Int) = 86400 := rfl
  rw [htotal, hlong]
  generalize hour * 3600 + minute * 60 + (second - second / 60) = clock at hclock ⊢
  have hdiv : (d * 86400 + clock) / 86400 = d := by omega
  have hmod : ((d * 86400 + clock) % 86400).toNat = clock := by omega
  rw [hdiv, hmod, if_pos hreach]

theorem exists_at? {day : Int} {second nano : Nat} (hreach : inReach day = true)
    (hsecond : second < secondsOfDay) (hnano : nano < 2 * nanosOfSecond) :
    ∃ i, at? day second nano = some i := ⟨_, dif_pos ⟨hreach, hsecond, hnano⟩⟩

theorem at?_self (i : Instant) : at? i.day i.second i.nano = some i :=
  dif_pos ⟨i.reached, i.second_lt, i.nano_lt⟩

theorem at?_eq_some {day : Int} {second nano : Nat} {i : Instant} (h : at? day second nano = some i) :
    i.day = day ∧ i.second = second ∧ i.nano = nano := by
  unfold at? at h
  split at h
  · cases h
    exact ⟨rfl, rfl, rfl⟩
  · cases h

theorem text_eq (i : Instant) :
    i.text.toList = yearText (date i.day).1 ++ '-' :: (padded 2 (date i.day).2.1 ++ '-' ::
      (padded 2 (date i.day).2.2 ++ 'T' :: (padded 2 (i.second / 3600) ++ ':' ::
        (padded 2 (i.second / 60 % 60) ++ ':' ::
          (padded 2 (i.second % 60 + i.nano / nanosOfSecond) ++
            (fractionText (i.nano % nanosOfSecond) ++ ['Z'])))))) := by
  simp [text]

theorem read?_text (i : Instant) :
    ∃ time, read? i.text.toList = some time ∧
      (i.nano < nanosOfSecond ∨ i.second % 60 = 59 → time = i) := by
  obtain ⟨hmonth, hmonth', hday, hday'⟩ := date_valid i.day
  have hreach := i.reached
  have hsecond := i.second_lt
  have hnano := i.nano_lt
  rw [← dayOf_date i.day] at hreach
  have hextra : i.nano / nanosOfSecond ≤ 1 := by
    unfold nanosOfSecond at hnano ⊢
    omega
  unfold secondsOfDay at hsecond
  have hhour : i.second / 3600 < 24 := by omega
  have hminute : i.second / 60 % 60 < 60 := by omega
  have hlast : i.second % 60 + i.nano / nanosOfSecond ≤ 60 := by omega
  have hread := read?_parts ⟨hmonth, hmonth'⟩ ⟨hday, hday'⟩ hhour hminute hlast
    (Nat.mod_lt i.nano (by decide)) hreach
  rw [dayOf_date, ← text_eq] at hread
  rw [hread]
  obtain ⟨time, htime⟩ : ∃ time, at? i.day
      (i.second / 3600 * 3600 + i.second / 60 % 60 * 60 +
        (i.second % 60 + i.nano / nanosOfSecond - (i.second % 60 + i.nano / nanosOfSecond) / 60))
      (i.nano % nanosOfSecond +
        (i.second % 60 + i.nano / nanosOfSecond) / 60 * nanosOfSecond) = some time := by
    refine exists_at? i.reached ?_ ?_
    · unfold secondsOfDay
      omega
    · unfold nanosOfSecond at hextra ⊢
      omega
  refine ⟨time, htime, fun hplace => ?_⟩
  have hsame : (i.second % 60 + i.nano / nanosOfSecond) / 60 = i.nano / nanosOfSecond := by
    rcases hplace with hplace | hplace
    · rw [Nat.div_eq_of_lt hplace]
      omega
    · generalize i.nano / nanosOfSecond = extra at hextra ⊢
      omega
  rw [hsame, Nat.add_sub_cancel, Nat.mod_add_div',
    show i.second / 3600 * 3600 + i.second / 60 % 60 * 60 + i.second % 60 = i.second by omega,
    at?_self] at htime
  exact (Option.some.inj htime).symm

theorem readFraction_lt {s rest : List Char} {n : Nat} (h : readFraction s = some (n, rest)) :
    n < nanosOfSecond := by
  unfold readFraction at h
  split at h
  · rename_i s
    obtain ⟨whole, _, h⟩ := Option.map_eq_some_iff.mp h
    obtain ⟨rfl, _⟩ := Prod.mk.inj h
    generalize hkept : (s.takeWhile Char.isDigit).take 9 = kept
    have hlen : kept.length ≤ 9 := by
      rw [← hkept]
      exact List.length_take_le 9 _
    have hpow : 10 ^ kept.length * 10 ^ (9 - kept.length) = nanosOfSecond := by
      rw [← Nat.pow_add, Nat.add_sub_cancel' hlen]
      rfl
    have hlt : (Text.natural? kept).getD 0 < 10 ^ kept.length := by
      cases hk : Text.natural? kept with
      | none => exact Nat.pow_pos (by decide)
      | some m => exact Text.natural?_lt hk
    calc (Text.natural? kept).getD 0 * Nat.pow 10 (9 - kept.length)
        < 10 ^ kept.length * 10 ^ (9 - kept.length) :=
          Nat.mul_lt_mul_of_pos_right hlt (Nat.pow_pos (by decide))
      _ = nanosOfSecond := hpow
  · cases h
    decide

theorem readOffset_minutes {s rest : List Char} {offset : Int} (h : readOffset s = some (offset, rest)) :
    offset % 60 = 0 := by
  unfold readOffset at h
  split at h
  · cases h
    rfl
  · cases h
    rfl
  · split at h
    · cases h
      rfl
    · split at h
      · obtain ⟨sign, _, h⟩ := Option.bind_eq_some_iff.mp h
        obtain ⟨hours, _, h⟩ := Option.bind_eq_some_iff.mp h
        obtain ⟨minutes, _, h⟩ := Option.bind_eq_some_iff.mp h
        split at h
        · cases h
        · cases h
          exact Int.emod_eq_zero_of_dvd (Dvd.dvd.mul_left (by omega) sign)
      · cases h
  · cases h

theorem place_of_read? {s : List Char} {i : Instant} (h : read? s = some i) :
    i.nano < nanosOfSecond ∨ i.second % 60 = 59 := by
  rw [read?] at h
  obtain ⟨⟨year, s⟩, _, h⟩ := Option.bind_eq_some_iff.mp h
  obtain ⟨s, _, h⟩ := Option.bind_eq_some_iff.mp h
  obtain ⟨⟨month, s⟩, _, h⟩ := Option.bind_eq_some_iff.mp h
  obtain ⟨s, _, h⟩ := Option.bind_eq_some_iff.mp h
  obtain ⟨⟨day, s⟩, _, h⟩ := Option.bind_eq_some_iff.mp h
  dsimp only at h
  split at h
  · obtain ⟨s, _, h⟩ := Option.bind_eq_some_iff.mp h
    obtain ⟨⟨hour, s⟩, _, h⟩ := Option.bind_eq_some_iff.mp h
    obtain ⟨s, _, h⟩ := Option.bind_eq_some_iff.mp h
    obtain ⟨⟨minute, s⟩, _, h⟩ := Option.bind_eq_some_iff.mp h
    obtain ⟨s, _, h⟩ := Option.bind_eq_some_iff.mp h
    obtain ⟨⟨second, s⟩, _, h⟩ := Option.bind_eq_some_iff.mp h
    obtain ⟨⟨nano, s⟩, hnano, h⟩ := Option.bind_eq_some_iff.mp h
    obtain ⟨⟨offset, s⟩, hoffset, h⟩ := Option.bind_eq_some_iff.mp h
    have hnano := readFraction_lt hnano
    have hoffset := readOffset_minutes hoffset
    dsimp only at h
    split at h
    · cases h
    split at h
    · cases h
    rename_i hrange
    split at h
    · obtain ⟨_, hsecond, hi⟩ := at?_eq_some h
      have hlong : (secondsOfDay : Int) = 86400 := rfl
      rw [hlong] at hsecond
      rw [hsecond, hi]
      unfold nanosOfSecond at hnano ⊢
      rcases Nat.lt_or_ge second 60 with hlt | hge
      · exact Or.inl (by omega)
      · obtain rfl : second = 60 := by omega
        exact Or.inr (by omega)
    · cases h
  · cases h

theorem read?_text_of_read? {s : List Char} {i : Instant} (h : read? s = some i) :
    read? i.text.toList = some i := by
  obtain ⟨time, hread, htime⟩ := read?_text i
  rw [hread, htime (place_of_read? h)]

end Watershed.Instant
