import Watershed.Ident
import Watershed.Proofs.Text.Numeral

namespace Watershed.Uuid

theorem length_hexDigits (n k : Nat) : (hexDigits n k).length = k := by
  induction k generalizing n with
  | zero => rfl
  | succ k ih => rw [hexDigits, List.length_append, ih, List.length_singleton]

theorem extend?_hexDigits (n k : Nat) :
    Text.extend? 16 0 (hexDigits n k) = some (n % 16 ^ k) := by
  induction k generalizing n with
  | zero => rw [hexDigits, Text.extend?, Nat.pow_zero, Nat.mod_one]
  | succ k ih =>
    rw [hexDigits, Text.extend?_append, ih, Option.bind_some,
      Text.extend?_digitChar (Nat.mod_lt _ (by decide)) (by decide), Nat.pow_succ', Nat.mod_mul,
      Nat.mul_comm, Nat.add_comm]

theorem naturalIn?_hexDigits {n k : Nat} (hk : 0 < k) (h : n < 16 ^ k) :
    Text.naturalIn? 16 (hexDigits n k) = some n := by
  have hne : hexDigits n k ≠ [] := List.ne_nil_of_length_pos (by rwa [length_hexDigits])
  rw [Text.naturalIn?_of_ne_nil hne, extend?_hexDigits, Nat.mod_eq_of_lt h]

theorem splitGroups_joinGroups {ks : List Nat} (hne : ks ≠ []) {s : List Char}
    (h : s.length = ks.foldr (· + ·) 0) : splitGroups ks (joinGroups ks s) = some s := by
  induction ks generalizing s with
  | nil => exact absurd rfl hne
  | cons k ks ih =>
    rw [List.foldr_cons] at h
    cases ks with
    | nil =>
      rw [List.foldr_nil, Nat.add_zero] at h
      rw [joinGroups, splitGroups, List.take_of_length_le (Nat.le_of_eq h), if_pos h]
    | cons k' ks =>
      have htake : (s.take k).length = k := by
        rw [List.length_take]
        omega
      have hdrop : (s.drop k).length = (k' :: ks).foldr (· + ·) 0 := by
        rw [List.length_drop]
        omega
      rw [joinGroups, splitGroups]
      · rw [List.drop_left' htake, List.take_left' htake]
        simp only [ih (List.cons_ne_nil _ _) hdrop, Option.map_some, List.take_append_drop]
      · simp
      · simp

theorem length_joinGroups {s : List Char} (h : s.length = 32) : (joinGroups groups s).length = 36 := by
  simp [joinGroups, groups, h]

theorem read?_text (u : Uuid) : read? u.text.toList = some u := by
  have hlen := length_hexDigits u.val 32
  have hsplit : splitGroups groups (joinGroups groups (hexDigits u.val 32)) = some (hexDigits u.val 32) :=
    splitGroups_joinGroups (by decide) hlen
  have hnat : Text.naturalIn? 16 (hexDigits u.val 32) = some u.val :=
    naturalIn?_hexDigits (by decide) u.val_lt
  have hof : ofNat? u.val = some u := dif_pos u.val_lt
  rw [text, String.toList_ofList, read?, digits?, length_joinGroups hlen]
  simp only [hsplit, hnat, hof, Option.bind_eq_bind, Option.bind_some]

end Watershed.Uuid
