import Watershed.Proofs.Decimal.Reading
import Watershed.Proofs.Outcome
import Watershed.Settings
import Mathlib.Data.List.Forall2

namespace Watershed.RatioSeries

theorem splitAtCommas_eq (s : List Char) : splitAtCommas s = s.splitOn ',' := by
  induction s with
  | nil => rfl
  | cons c s ih =>
    rw [List.splitOn_eq_splitOnP] at ih ⊢
    rw [splitAtCommas, List.splitOnP_cons_eq_if_modifyHead, ih]
    by_cases hc : c = ','
    · simp [hc]
    · rw [if_neg hc, if_neg (by simpa using hc)]
      cases h : s.splitOnP (· == ',') with
      | nil => exact absurd h (List.splitOnP_ne_nil _ _)
      | cons piece rest => rfl

def IsRatio (piece : List Char) (r : Decimal) : Prop :=
  Decimal.read (Text.trim piece) = .ok r ∧ r.negative = false

inductive Refused (piece : List Char) (i : Nat) : Fault → Prop
  | notRatio {e : Decimal.Fault} (h : Decimal.read (Text.trim piece) = .error e) :
    Refused piece i (.notRatio i (Text.trim piece) e)
  | negative {r : Decimal} (h : Decimal.read (Text.trim piece) = .ok r) (hr : r.negative = true) :
    Refused piece i (.negative i r)

theorem Refused.message {piece : List Char} {i : Nat} {f : Fault} (h : Refused piece i f) :
    ∃ rest, f.message = "entry " ++ toString i ++ (" " ++ rest) := by
  cases h with
  | @notRatio e h =>
    refine ⟨"(" ++ String.ofList (Text.quote (Text.trim piece)) ++ ") is not a ratio: " ++ e.message, ?_⟩
    rw [Fault.message, show " (" = " " ++ "(" from rfl]
    simp only [String.append_assoc]
  | @negative r h hr =>
    refine ⟨"is negative (" ++ r.text ++ ")", ?_⟩
    rw [Fault.message, show " is negative (" = " " ++ "is negative (" from rfl]
    simp only [String.append_assoc]

theorem readRatio_eq_ok {i : Nat} {piece : List Char} {r : Decimal} :
    readRatio i (Text.trim piece) = .ok r ↔ IsRatio piece r := by
  unfold readRatio IsRatio
  cases Decimal.read (Text.trim piece) with
  | error e => simp
  | ok r' =>
    dsimp only
    cases hr : r'.negative with
    | true => simp; rintro rfl; exact hr
    | false => simp; rintro rfl; exact hr

theorem readRatio_eq_error {i : Nat} {piece : List Char} {f : Fault} :
    readRatio i (Text.trim piece) = .error f ↔ Refused piece i f := by
  unfold readRatio
  constructor
  · intro h
    split at h
    · rename_i e he
      cases h
      exact .notRatio he
    · rename_i r hr
      split at h
      · rename_i hn
        cases h
        exact .negative hr hn
      · cases h
  · rintro (⟨he⟩ | ⟨hr, hn⟩)
    · rw [he]
    · rw [hr]
      exact if_pos hn

theorem readFrom_eq_ok {i : Nat} {pieces : List (List Char)} {rs : List Decimal} :
    readFrom i pieces = .ok rs ↔ List.Forall₂ IsRatio pieces rs := by
  induction pieces generalizing i rs with
  | nil =>
    rw [readFrom, List.forall₂_nil_left_iff]
    exact ⟨fun h => (Except.ok.inj h).symm, fun h => congrArg Except.ok h.symm⟩
  | cons piece pieces ih =>
    simp only [readFrom, bind_eq_ok, readRatio_eq_ok, ih, List.forall₂_cons_left_iff, pure,
      Except.pure, Except.ok.injEq]
    exact ⟨fun ⟨r, hr, rs, hrs, h⟩ => ⟨r, rs, hr, hrs, h.symm⟩,
      fun ⟨r, rs, hr, hrs, h⟩ => ⟨r, hr, rs, hrs, h.symm⟩⟩

theorem readFrom_eq_error {i : Nat} {pieces : List (List Char)} {f : Fault} :
    readFrom i pieces = .error f ↔ ∃ n piece, pieces[n]? = some piece ∧
      (∀ p ∈ pieces.take n, ∃ r, IsRatio p r) ∧ Refused piece (i + n) f := by
  induction pieces generalizing i with
  | nil => simp [readFrom]
  | cons piece pieces ih =>
    simp only [readFrom, bind_eq_error, readRatio_eq_ok, readRatio_eq_error, ih, pure, Except.pure,
      reduceCtorEq, and_false, exists_false, or_false]
    constructor
    · rintro (h | ⟨r, hr, n, p, hp, hbefore, h⟩)
      · exact ⟨0, piece, rfl, fun p hp => (by cases hp), h⟩
      · refine ⟨n + 1, p, hp, ?_, by rwa [Nat.add_assoc, Nat.add_comm 1] at h⟩
        exact List.forall_mem_cons.mpr ⟨⟨r, hr⟩, hbefore⟩
    · rintro ⟨n, p, hp, hbefore, h⟩
      cases n with
      | zero =>
        obtain rfl := Option.some.inj hp
        exact Or.inl h
      | succ n =>
        obtain ⟨⟨r, hr⟩, hrest⟩ := List.forall_mem_cons.mp hbefore
        exact Or.inr ⟨r, hr, n, p, hp, hrest, by rwa [Nat.add_assoc, Nat.add_comm 1]⟩

def pieces (text : String) : List (List Char) := text.toList.splitOn ','

theorem readFor_blank {key text : String} (h : Text.AllBlank text.toList) :
    readFor key text = .ok .empty := by
  rw [readFor, read, if_pos (Text.trim_eq_nil_iff.mpr h)]
  rfl

theorem readFor_of_not_blank {key text : String} (h : ¬ Text.AllBlank text.toList) :
    readFor key text = ((readFrom 0 (pieces text)).map mk).mapError (.badSeries key) := by
  rw [readFor, read, if_neg fun e => h (Text.trim_eq_nil_iff.mp e), splitAtCommas_eq, pieces]

theorem readFor_eq_ok {key text : String} {series : RatioSeries} :
    readFor key text = .ok series ↔ (Text.AllBlank text.toList ∧ series = .empty) ∨
      (¬ Text.AllBlank text.toList ∧ List.Forall₂ IsRatio (pieces text) series.ratios) := by
  by_cases h : Text.AllBlank text.toList
  · simp [readFor_blank h, h, eq_comm]
  · rw [readFor_of_not_blank h, mapError_eq_ok, map_eq_ok]
    simp only [h, false_and, not_false_eq_true, true_and, false_or, readFrom_eq_ok]
    constructor
    · rintro ⟨rs, hrs, rfl⟩
      exact hrs
    · exact fun hrs => ⟨series.ratios, hrs, rfl⟩

theorem readFor_eq_error {key text : String} {e : ConfigFault} :
    readFor key text = .error e ↔ ¬ Text.AllBlank text.toList ∧ ∃ n piece f,
      (pieces text)[n]? = some piece ∧ (∀ p ∈ (pieces text).take n, ∃ r, IsRatio p r) ∧
        Refused piece n f ∧ e = .badSeries key f := by
  by_cases h : Text.AllBlank text.toList
  · simp [readFor_blank h, h]
  · simp only [readFor_of_not_blank h, mapError_eq_error, map_eq_error, readFrom_eq_error, h,
      not_false_eq_true, true_and, Nat.zero_add]
    constructor
    · rintro ⟨f, ⟨n, piece, hp, hbefore, hf⟩, rfl⟩
      exact ⟨n, piece, f, hp, hbefore, hf, rfl⟩
    · rintro ⟨n, piece, f, hp, hbefore, hf, rfl⟩
      exact ⟨f, ⟨n, piece, hp, hbefore, hf⟩, rfl⟩

theorem ratioFor_of_getElem? {s : RatioSeries} {round : Count} {i : Nat} {r : Decimal}
    (hround : round.val = i + 1) (h : s.ratios[i]? = some r) : s.ratioFor round = r := by
  rw [ratioFor, hround]
  show s.ratios[i]?.getD 1 = r
  rw [h]
  rfl

theorem ratioFor_outside {s : RatioSeries} {round : Count}
    (h : round.val = 0 ∨ s.length < round.val) : s.ratioFor round = 1 := by
  unfold ratioFor
  split
  · rfl
  · rename_i n hn
    rw [List.getElem?_eq_none (by simp only [length] at h; omega)]
    rfl

def Padded (d : Decimal) (piece : List Char) : Prop :=
  ∃ l r, Text.AllBlank l ∧ Text.AllBlank r ∧ piece = l ++ d.text.toList ++ r

inductive Lists : List Decimal → List Char → Prop
  | blank {s : List Char} (h : Text.AllBlank s) : Lists [] s
  | pieces {ds : List Decimal} {ps : List (List Char)} (hne : ds ≠ [])
    (h : List.Forall₂ Padded ds ps) : Lists ds ([','].intercalate ps)

theorem isBlank_eq_false {c : Char} (h : c.isDigit = true ∨ c = '.') : Text.isBlank c = false := by
  rcases h with h | rfl
  · obtain ⟨hlow, hhigh⟩ : 48 ≤ c.toNat ∧ c.toNat ≤ 57 := by
      simpa [Char.isDigit, UInt32.le_iff_toNat_le] using h
    simp [Text.isBlank, Text.blankRanges, Text.inRanges]
    omega
  · decide

section

variable {d : Decimal} (hd : d.negative = false)
include hd

theorem text_ne_nil : d.text.toList ≠ [] := by
  intro h
  obtain ⟨n, hn, _⟩ := Decimal.Numeral.read_text hd
  rw [h] at hn
  cases hn

theorem Padded.isRatio {piece : List Char} (h : Padded d piece) : IsRatio piece d := by
  obtain ⟨l, r, hl, hr, rfl⟩ := h
  have htrim : Text.trim (l ++ d.text.toList ++ r) = d.text.toList :=
    Text.trim_padded hl hr (fun c hc => isBlank_eq_false (Decimal.mem_text hd hc)) (text_ne_nil hd)
  exact ⟨by rw [htrim]; exact Decimal.read_text hd, hd⟩

theorem Padded.comma_not_mem {piece : List Char} (h : Padded d piece) : ',' ∉ piece := by
  obtain ⟨l, r, hl, hr, rfl⟩ := h
  simp only [List.mem_append, not_or]
  refine ⟨⟨fun hc => ?_, fun hc => ?_⟩, fun hc => ?_⟩
  · exact absurd (hl _ hc) (by decide)
  · exact absurd (Decimal.mem_text hd hc) (by decide)
  · exact absurd (hr _ hc) (by decide)

theorem Padded.not_blank {piece : List Char} (h : Padded d piece) : ¬ Text.AllBlank piece := by
  obtain ⟨hread, _⟩ := h.isRatio hd
  intro hblank
  rw [Text.trim_eq_nil_iff.mpr hblank] at hread
  cases hread

end

theorem Lists.read {ds : List Decimal} {text : String} (hds : ∀ d ∈ ds, d.negative = false)
    (h : Lists ds text.toList) (key : String) : readFor key text = .ok ⟨ds⟩ := by
  generalize hs : text.toList = s at h
  cases h with
  | blank h => exact readFor_blank (hs ▸ h)
  | @pieces _ ps hne h =>
    have hwritten := (List.forall₂_and_left _ _).mpr ⟨hds, h⟩
    have hps : ps ≠ [] := by
      rintro rfl
      exact hne (List.forall₂_nil_right_iff.mp h)
    have hcomma : ∀ p ∈ ps, ',' ∉ p := by
      intro p hp
      obtain ⟨i, hi, rfl⟩ := List.getElem_of_mem hp
      obtain ⟨hd, hpadded⟩ := hwritten.get (hwritten.length_eq ▸ hi) hi
      exact hpadded.comma_not_mem hd
    have hsplit : RatioSeries.pieces text = ps := by
      rw [RatioSeries.pieces, hs, List.splitOn_intercalate ',' hcomma hps]
    refine readFor_eq_ok.mpr (Or.inr ⟨fun hblank => ?_, ?_⟩)
    · -- white space has no comma in it, so that it would be the only piece
      have hone : RatioSeries.pieces text = [text.toList] :=
        List.splitOn_eq_singleton fun hc => absurd (hblank _ hc) (by decide)
      rw [← hsplit, hone] at hwritten
      obtain ⟨d, _, ⟨hd, hpadded⟩, _⟩ := List.forall₂_cons_right_iff.mp hwritten
      exact hpadded.not_blank hd hblank
    · rw [hsplit]
      exact (hwritten.imp fun d p ⟨hd, hp⟩ => hp.isRatio hd).flip

structure ReadExactly (key text : String) : Prop where
  accepted : (∃ series, readFor key text = .ok series) ↔
    Text.AllBlank text.toList ∨ ∀ piece ∈ pieces text, ∃ r, IsRatio piece r
  blank : ∀ series, readFor key text = .ok series → Text.AllBlank text.toList → series = .empty
  length : ∀ series, readFor key text = .ok series → ¬ Text.AllBlank text.toList →
    series.length = (pieces text).length
  inside : ∀ series, readFor key text = .ok series → ∀ round : Count, 1 ≤ round.val →
    round.val ≤ series.length →
      ∃ piece, (pieces text)[round.val - 1]? = some piece ∧ IsRatio piece (series.ratioFor round)
  outside : ∀ series, readFor key text = .ok series → ∀ round : Count,
    round.val = 0 ∨ series.length < round.val → series.ratioFor round = 1
  refused : ∀ e, readFor key text = .error e ↔ ¬ Text.AllBlank text.toList ∧ ∃ n piece f,
    (pieces text)[n]? = some piece ∧ (∀ p ∈ (pieces text).take n, ∃ r, IsRatio p r) ∧
      Refused piece n f ∧ e = .badSeries key f
  named : ∀ n piece f, Refused piece n f → ∃ rest, (ConfigFault.badSeries key f).message =
    "invalid value for " ++ key ++ ": " ++ ("entry " ++ toString n ++ (" " ++ rest))

theorem readFor_exactly (key text : String) : ReadExactly key text where
  accepted := by
    constructor
    · rintro ⟨series, h⟩
      refine (readFor_eq_ok.mp h).imp And.left fun ⟨_, h⟩ piece hp => ?_
      obtain ⟨i, hi, rfl⟩ := List.getElem_of_mem hp
      exact ⟨_, h.get hi (h.length_eq ▸ hi)⟩
    · rintro (h | h)
      · exact ⟨_, readFor_blank h⟩
      · by_contra hnone
        cases hr : readFor key text with
        | ok series => exact hnone ⟨series, hr⟩
        | error e =>
          obtain ⟨_, n, piece, f, hp, _, hf, _⟩ := readFor_eq_error.mp hr
          obtain ⟨r, hr⟩ := h piece (List.mem_of_getElem? hp)
          rw [← readRatio_eq_error, readRatio_eq_ok.mpr hr] at hf
          cases hf
  blank series h hblank := by
    rw [readFor_blank hblank] at h
    exact (Except.ok.inj h).symm
  length series h hblank := by
    obtain ⟨hb, _⟩ | ⟨_, h⟩ := readFor_eq_ok.mp h
    · exact absurd hb hblank
    · exact h.length_eq.symm
  inside series h round hlow hhigh := by
    obtain ⟨_, rfl⟩ | ⟨_, h⟩ := readFor_eq_ok.mp h
    · exact absurd hhigh (Nat.not_le.mpr hlow)
    have hi : round.val - 1 < series.ratios.length := by
      simp only [length] at hhigh
      omega
    have hi' : round.val - 1 < (pieces text).length := h.length_eq ▸ hi
    refine ⟨_, List.getElem?_eq_getElem hi', ?_⟩
    rw [ratioFor_of_getElem? (by omega) (List.getElem?_eq_getElem hi)]
    exact h.get hi' hi
  outside series _ round := ratioFor_outside
  refused e := readFor_eq_error
  named n piece f h := by
    obtain ⟨rest, hrest⟩ := h.message
    have hmessage : (ConfigFault.badSeries key f).message = ConfigFault.invalid key f.message := rfl
    rw [hmessage, hrest]
    exact ⟨rest, rfl⟩

theorem read_and_written : (∀ key text, ReadExactly key text) ∧
    ∀ (key : String) (ds : List Decimal) (text : String), (∀ d ∈ ds, d.negative = false) →
      Lists ds text.toList → ∃ series, readFor key text = .ok series ∧ series.length = ds.length ∧
        ∀ round : Count, series.ratioFor round = (RatioSeries.mk ds).ratioFor round :=
  ⟨readFor_exactly, fun key _ _ hds h => ⟨_, h.read hds key, rfl, fun _ => rfl⟩⟩

def onceFull : List Decimal := [1, ⟨false, 80, 2, by decide, by decide⟩]

def onceFullText : String := " 1,\t0.80 "

theorem onceFull_lists : Lists onceFull onceFullText.toList := by
  have hone : ∀ c, Text.isBlank c = true → Text.AllBlank [c] := fun _ hc _ h =>
    List.mem_singleton.mp h ▸ hc
  have hpadded : List.Forall₂ Padded onceFull [[' ', '1'], ['\t', '0', '.', '8', '0', ' ']] :=
    .cons ⟨[' '], [], hone ' ' (by decide), fun _ h => absurd h List.not_mem_nil, by decide +kernel⟩
      (.cons ⟨['\t'], [' '], hone '\t' (by decide), hone ' ' (by decide), by decide +kernel⟩ .nil)
  exact .pieces (by decide) hpadded

theorem onceFull_read_back : (∀ d ∈ onceFull, d.negative = false) ∧
    Lists onceFull onceFullText.toList ∧ ∃ series,
      readFor WaterSettings.rainfallDeviationsKey onceFullText = .ok series ∧ series.length = 2 ∧
        ∀ round : Count, series.ratioFor round = (RatioSeries.mk onceFull).ratioFor round :=
  have hsigns : ∀ d ∈ onceFull, d.negative = false := by decide
  ⟨hsigns, onceFull_lists, read_and_written.2 _ onceFull onceFullText hsigns onceFull_lists⟩

end Watershed.RatioSeries
