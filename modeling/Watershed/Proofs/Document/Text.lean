import Watershed.Document.Writing
import Watershed.Proofs.Text.Numeral

namespace Watershed.Json

theorem isValidChar_toNat (c : Char) : c.toNat < 0xD800 ∨ 0xDFFF < c.toNat ∧ c.toNat < 0x110000 :=
  c.valid

theorem eq_of_length_eq_four {s : List Char} (h : s.length = 4) : ∃ a b c d, s = [a, b, c, d] := by
  match s, h with
  | [a, b, c, d], _ => exact ⟨a, b, c, d, rfl⟩

theorem unitText_eq {n : Nat} (h : n < 0x10000) :
    ∃ a b c d, unitText n = ['\\', 'u', a, b, c, d] ∧ Text.naturalIn? 16 [a, b, c, d] = some n := by
  have hlen := Text.length_padded (show 1 < 16 by decide) (show 0 < 4 by decide) h
  have hread := Text.naturalIn?_padded (show 1 < 16 by decide) (by decide)
    (4 - (Nat.toDigits 16 n).length) n
  obtain ⟨a, b, c, d, hs⟩ := eq_of_length_eq_four hlen
  exact ⟨a, b, c, d, congrArg (['\\', 'u'] ++ ·) hs, hs ▸ hread⟩

theorem isHigh_iff {n : Nat} : isHigh n = true ↔ 0xD800 ≤ n ∧ n < 0xDC00 := by
  rw [isHigh, Bool.and_eq_true, decide_eq_true_eq, decide_eq_true_eq]

theorem isLow_iff {n : Nat} : isLow n = true ↔ 0xDC00 ≤ n ∧ n < 0xE000 := by
  rw [isLow, Bool.and_eq_true, decide_eq_true_eq, decide_eq_true_eq]

theorem readText_unit {n : Nat} (h : n < 0xD800 ∨ 0xDFFF < n) (hn : n < 0x10000)
    (read rest : List Char) :
    readText read (unitText n ++ rest) = readText (Char.ofNat n :: read) rest := by
  have hlow : ¬ isLow n = true := by
    rw [isLow_iff]
    omega
  have hhigh : ¬ isHigh n = true := by
    rw [isHigh_iff]
    omega
  obtain ⟨a, b, c, d, hs, hread⟩ := unitText_eq hn
  rw [hs]
  simp [readText, hread, hlow, hhigh]

theorem readText_pair {m n : Nat} (hm : isHigh m = true) (hn : isLow n = true)
    (read rest : List Char) :
    readText read (unitText m ++ unitText n ++ rest) =
      readText (Char.ofNat (joinPair m n) :: read) rest := by
  have hm' := isHigh_iff.mp hm
  have hn' := isLow_iff.mp hn
  have hlow : ¬ isLow m = true := by
    rw [isLow_iff]
    omega
  obtain ⟨a, b, c, d, hs, hread⟩ := unitText_eq (n := m) (by omega)
  obtain ⟨a', b', c', d', hs', hread'⟩ := unitText_eq (n := n) (by omega)
  rw [hs, hs']
  simp [readText, hread, hread', hlow, hm, hn]

theorem readText_escaped {c letter : Char} (hu : letter ≠ 'u') (h : escaped? letter = some c)
    (read rest : List Char) :
    readText read ('\\' :: letter :: rest) = readText (c :: read) rest := by
  simp [readText, hu, h]

theorem readText_plain {c : Char} (hquote : c ≠ '"') (hslash : c ≠ '\\') (h : 0x20 ≤ c.toNat)
    (read rest : List Char) : readText read (c :: rest) = readText (c :: read) rest := by
  rw [readText]
  · rw [if_neg (by omega)]
  all_goals simp [hquote, hslash]

theorem readText_unitText {c : Char} (h : c.toNat < 0x10000) (read rest : List Char) :
    readText read (unitText c.toNat ++ rest) = readText (c :: read) rest := by
  rw [readText_unit ((isValidChar_toNat c).imp_right And.left) h, Char.ofNat_toNat]

theorem readText_charText (c : Char) (read rest : List Char) :
    readText read (charText c ++ rest) = readText (c :: read) rest := by
  have hvalid := isValidChar_toNat c
  unfold charText
  dsimp only
  split
  · rename_i h
    rw [h]
    exact readText_escaped (by decide) rfl read rest
  rename_i hquote
  split
  · rename_i h
    rw [h]
    exact readText_escaped (by decide) rfl read rest
  rename_i hslash
  split
  · rename_i h
    exact readText_plain hquote hslash h.1 read rest
  split
  · rename_i h
    exact readText_unitText h read rest
  · rename_i h
    have hjoin : joinPair (0xD800 + (c.toNat - 0x10000) / 0x400)
        (0xDC00 + (c.toNat - 0x10000) % 0x400) = c.toNat := by
      unfold joinPair
      omega
    rw [readText_pair (isHigh_iff.mpr (by omega)) (isLow_iff.mpr (by omega)), hjoin,
      Char.ofNat_toNat]

theorem escaped?_escapeLetter? {c letter : Char} (h : escapeLetter? c = some letter) :
    letter ≠ 'u' ∧ escaped? letter = some c := by
  unfold escapeLetter? at h
  split at h
  all_goals first | (cases h; exact ⟨by decide, rfl⟩) | cases h

theorem Escaping.readText_charText (e : Escaping) (c : Char) (read rest : List Char) :
    readText read (e.charText c ++ rest) = readText (c :: read) rest := by
  cases e with
  | ascii => exact Json.readText_charText c read rest
  | least =>
    rw [charText]
    split
    · rename_i letter h
      obtain ⟨hu, hc⟩ := escaped?_escapeLetter? h
      exact readText_escaped hu hc read rest
    · rename_i h
      split
      · rename_i hcontrol
        exact readText_unitText (Nat.lt_trans hcontrol (by decide)) read rest
      · rename_i hcontrol
        refine readText_plain ?_ ?_ (Nat.not_lt.mp hcontrol) read rest
        · rintro rfl
          cases h
        · rintro rfl
          cases h

theorem readText_flatMap (e : Escaping) (s read rest : List Char) :
    readText read (s.flatMap e.charText ++ '"' :: rest) =
      some (String.ofList (read.reverse ++ s), rest) := by
  induction s generalizing read with
  | nil => rw [List.flatMap_nil, List.nil_append, readText, List.append_nil]
  | cons c s ih =>
    rw [List.flatMap_cons, List.append_assoc, e.readText_charText, ih, List.reverse_cons,
      List.append_assoc, List.singleton_append]

theorem quoted_append (e : Escaping) (s : String) (rest : List Char) :
    quoted e s ++ rest = '"' :: (s.toList.flatMap e.charText ++ '"' :: rest) := by
  simp [quoted]

theorem readText_quoted (e : Escaping) (s : String) (rest : List Char) :
    readText [] (s.toList.flatMap e.charText ++ '"' :: rest) = some (s, rest) := by
  rw [readText_flatMap, List.reverse_nil, List.nil_append, String.ofList_toList]

end Watershed.Json
