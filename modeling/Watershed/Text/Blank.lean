namespace Watershed.Text

def blankRanges : List (Nat × Nat) :=
  [(0x09, 0x0D), (0x20, 0x20), (0x85, 0x85), (0xA0, 0xA0), (0x1680, 0x1680), (0x2000, 0x200A),
    (0x2028, 0x2029), (0x202F, 0x202F), (0x205F, 0x205F), (0x3000, 0x3000)]

def inRanges : List (Nat × Nat) → Char → Bool
  | [], _ => false
  | r :: rest, c => r.1 ≤ c.toNat && (c.toNat ≤ r.2 || inRanges rest c)

def isBlank (c : Char) : Bool := inRanges blankRanges c

def trimRight (s : List Char) : List Char := (s.reverse.dropWhile isBlank).reverse

def trim (s : List Char) : List Char := trimRight (s.dropWhile isBlank)

def AllBlank (s : List Char) : Prop := ∀ c ∈ s, isBlank c = true

theorem dropWhile_eq_nil_iff {p : Char → Bool} {s : List Char} :
    s.dropWhile p = [] ↔ ∀ c ∈ s, p c = true := by
  induction s with
  | nil => simp
  | cons c s ih =>
    by_cases h : p c = true
    · simp [h, ih]
    · simp [h]

theorem trim_eq_nil_iff {s : List Char} : trim s = [] ↔ AllBlank s := by
  rw [trim, trimRight, List.reverse_eq_nil_iff, dropWhile_eq_nil_iff]
  constructor
  · intro h
    refine dropWhile_eq_nil_iff.mp ?_
    cases hs : s.dropWhile isBlank with
    | nil => rfl
    | cons c t =>
      have hc : isBlank c = true := h c (by simp [hs])
      have hn := List.head_dropWhile_not isBlank (l := s) (by simp [hs])
      simp [hs, hc] at hn
  · intro h
    rw [dropWhile_eq_nil_iff.mpr h]
    intro c hc
    cases hc

theorem trim_padded {l s r : List Char} (hl : AllBlank l) (hr : AllBlank r)
    (hs : ∀ c ∈ s, isBlank c = false) (hne : s ≠ []) : trim (l ++ s ++ r) = s := by
  have hfirst : (l ++ s ++ r).dropWhile isBlank = s ++ r := by
    rw [List.append_assoc, List.dropWhile_append_of_pos hl]
    cases s with
    | nil => exact absurd rfl hne
    | cons c s => rw [List.cons_append, List.dropWhile_cons_of_neg (by simp [hs c])]
  have hlast : (s ++ r).reverse.dropWhile isBlank = s.reverse := by
    rw [List.reverse_append, List.dropWhile_append_of_pos fun c hc => hr c (List.mem_reverse.mp hc)]
    cases hrev : s.reverse with
    | nil => exact absurd (List.reverse_eq_nil_iff.mp hrev) hne
    | cons c t =>
      have hc : c ∈ s := List.mem_reverse.mp (hrev ▸ List.mem_cons_self)
      rw [List.dropWhile_cons_of_neg (by simp [hs c hc])]
  rw [trim, trimRight, hfirst, hlast, List.reverse_reverse]

end Watershed.Text
