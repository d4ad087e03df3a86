import Watershed.Roll
import Mathlib.Data.List.Nodup

namespace Watershed.Roll

variable {α β κ : Type} [Key κ] [Keyed α κ] [Keyed β κ]

theorem eq_of_key {r : Roll α} {a b : α} (ha : a ∈ r.toList) (hb : b ∈ r.toList)
    (h : key a = key b) : a = b := by
  have hf := find?_of_mem ha
  rw [h, find?_of_mem hb] at hf
  exact (Option.some.inj hf).symm

theorem find?_eq_none {r : Roll α} {k : κ} : r.find? k = none ↔ ∀ a ∈ r.toList, key a ≠ k := by
  constructor
  · rintro h a ha rfl
    rw [find?_of_mem ha] at h
    cases h
  · intro h
    cases hf : r.find? k with
    | none => rfl
    | some a => exact absurd (key_of_find? hf) (h a (mem_of_find? hf))

theorem contains_iff {r : Roll α} {k : κ} : r.contains k = true ↔ ∃ a ∈ r.toList, key a = k := by
  rw [contains, Option.isSome_iff_exists]
  exact exists_congr fun _ => find?_eq_some

theorem contains_eq_false {r : Roll α} {k : κ} : r.contains k = false ↔ r.find? k = none := by
  rw [contains, Option.isSome_eq_false_iff, Option.isNone_iff_eq_none]

theorem nodup_keys (r : Roll α) : (r.toList.map key).Nodup := by
  refine List.pairwise_map.mpr (r.ascending.imp ?_)
  exact fun h => Key.ne_of_lt h

theorem mem_keys {r : Roll α} {k : κ} : k ∈ r.keys ↔ r.contains k = true := by
  rw [contains_iff, keys, List.mem_map]

theorem contains_congr {r : Roll α} {s : Roll β} (h : r.keys = s.keys) (k : κ) :
    r.contains k = s.contains k := by
  rw [Bool.eq_iff_iff, ← mem_keys, ← mem_keys, h]

theorem mem_map {f : α → β} {h : ∀ a, key (f a) = key a} {r : Roll α} {b : β} :
    b ∈ (r.map f h).toList ↔ ∃ a ∈ r.toList, f a = b := List.mem_map

theorem find?_map {f : α → β} {h : ∀ a, key (f a) = key a} {r : Roll α} {k : κ} :
    (r.map f h).find? k = (r.find? k).map f := by
  refine Option.ext fun b => ?_
  rw [find?_eq_some, mem_map, Option.map_eq_some_iff]
  constructor
  · rintro ⟨⟨a, ha, rfl⟩, rfl⟩
    exact ⟨a, (h a).symm ▸ find?_of_mem ha, rfl⟩
  · rintro ⟨a, ha, rfl⟩
    exact ⟨⟨a, mem_of_find? ha, rfl⟩, (h a).trans (key_of_find? ha)⟩

theorem find?_tabulate {ν : Type} {f : α → ν} {r : Roll α} {k : κ} :
    (r.tabulate f).find? k = (r.find? k).map fun a => (key a, f a) := find?_map

theorem map_eq_self {f : α → α} {hf : ∀ a, key (f a) = key a} {r : Roll α}
    (h : ∀ a ∈ r.toList, f a = a) : r.map f hf = r :=
  ext ((List.map_congr_left h).trans (List.map_id _))

theorem ext_mem {r s : Roll α} (h : ∀ a, a ∈ r.toList ↔ a ∈ s.toList) : r = s := by
  have hr : r.toList.Nodup := List.Nodup.of_map key (nodup_keys r)
  have hs : s.toList.Nodup := List.Nodup.of_map key (nodup_keys s)
  have hp : r.toList.Perm s.toList := (List.perm_ext_iff_of_nodup hr hs).mpr h
  refine ext (hp.eq_of_pairwise ?_ r.ascending s.ascending)
  intro a b _ _ hab hba
  exact absurd hba (Key.asymm hab)

theorem eq_of_map_eq {γ : Type} {f : α → γ} {r s : Roll α} (h : s.toList.map f = r.toList.map f)
    (hf : ∀ a ∈ r.toList, ∀ b ∈ s.toList, f a = f b → a = b) : r = s := by
  apply ext_mem
  intro a
  constructor
  · intro ha
    obtain ⟨b, hb, hab⟩ := List.mem_map.mp (h.symm ▸ List.mem_map_of_mem ha)
    exact hf a ha b hb hab.symm ▸ hb
  · intro hb
    obtain ⟨b, ha, hab⟩ := List.mem_map.mp (h ▸ List.mem_map_of_mem hb)
    exact hf b ha a hb hab ▸ ha

theorem map_eq_map {f : α → α} (hf : ∀ a, key (f a) = key a) {r s : Roll α}
    (hrs : ∀ a ∈ r.toList, ∃ b ∈ s.toList, f b = f a)
    (hsr : ∀ b ∈ s.toList, ∃ a ∈ r.toList, f a = f b) : r.toList.map f = s.toList.map f := by
  refine congrArg toList (ext_mem (r := r.map f hf) (s := s.map f hf) fun c => ?_)
  rw [mem_map, mem_map]
  constructor
  · rintro ⟨a, ha, rfl⟩
    exact hrs a ha
  · rintro ⟨b, hb, rfl⟩
    exact hsr b hb

theorem toList_put_of_lt {r : Roll α} {a : α}
    (h : ∀ b ∈ r.toList, key b < key a) : (r.put a).toList = r.toList ++ [a] := by
  show place a r.toList = _
  revert h
  induction r.toList with
  | nil => exact fun _ => rfl
  | cons b l ih =>
    intro h
    obtain ⟨hb, hl⟩ := List.forall_mem_cons.mp h
    rw [place, if_neg (Key.asymm hb), if_pos hb, ih hl, List.cons_append]

theorem put_of_mem {r : Roll α} {a : α} (h : a ∈ r.toList) : r.put a = r := by
  refine ext_mem fun b => ?_
  rw [mem_put]
  constructor
  · rintro (rfl | ⟨hb, _⟩)
    · exact h
    · exact hb
  · intro hb
    by_cases hk : key b = key a
    · exact Or.inl (eq_of_key hb h hk)
    · exact Or.inr ⟨hb, hk⟩

theorem put_put {r : Roll α} {a b : α} (h : key a = key b) : (r.put a).put b = r.put b := by
  refine ext_mem fun c => ?_
  rw [mem_put, mem_put, mem_put, h]
  constructor
  · rintro (rfl | ⟨rfl | ⟨hc, _⟩, hne⟩)
    · exact Or.inl rfl
    · exact absurd h hne
    · exact Or.inr ⟨hc, hne⟩
  · rintro (rfl | ⟨hc, hne⟩)
    · exact Or.inl rfl
    · exact Or.inr ⟨Or.inr ⟨hc, hne⟩, hne⟩

theorem put_back {r : Roll α} {a b : α} (hb : b ∈ r.toList) (h : key a = key b) :
    (r.put a).put b = r :=
  (put_put h).trans (put_of_mem hb)

theorem put_eq_map [DecidableEq κ] {r : Roll α} {a b : α} (hb : b ∈ r.toList)
    (hk : key b = key a) :
    r.put a = r.map (fun c => if key c = key a then a else c)
      (fun c => by split <;> simp_all) := by
  refine ext_mem fun c => ?_
  rw [mem_put, mem_map]
  constructor
  · rintro (rfl | ⟨hc, hne⟩)
    · exact ⟨b, hb, if_pos hk⟩
    · exact ⟨c, hc, if_neg hne⟩
  · rintro ⟨d, hd, rfl⟩
    by_cases hdk : key d = key a
    · exact Or.inl (if_pos hdk)
    · rw [if_neg hdk]
      exact Or.inr ⟨hd, hdk⟩

theorem size_put_of_mem [DecidableEq κ] {r : Roll α} {a b : α} (hb : b ∈ r.toList)
    (hk : key b = key a) : (r.put a).size = r.size := by
  rw [put_eq_map hb hk]
  exact List.length_map _

theorem map_put_of_mem [DecidableEq κ] {γ : Type} {F : α → γ} {r : Roll α} {a b : α}
    (hb : b ∈ r.toList) (hk : key b = key a) (hF : F b = F a) :
    (r.put a).toList.map F = r.toList.map F := by
  rw [put_eq_map hb hk, map, List.map_map]
  refine List.map_congr_left fun c hc => ?_
  by_cases hca : key c = key a
  · obtain rfl := eq_of_key hc hb (hca.trans hk.symm)
    simp only [Function.comp, if_pos hca, hF]
  · simp only [Function.comp, if_neg hca]

theorem keys_map {f : α → β} {h : ∀ a, key (f a) = key a} {r : Roll α} :
    (r.map f h).keys = r.keys := by
  rw [keys, keys, map, List.map_map]
  exact List.map_congr_left fun a _ => h a

theorem keys_put_of_mem [DecidableEq κ] {r : Roll α} {a b : α} (hb : b ∈ r.toList)
    (hk : key b = key a) : (r.put a).keys = r.keys :=
  map_put_of_mem hb hk hk

theorem keys_foldl_put [DecidableEq κ] {l : List α} {r : Roll α}
    (h : ∀ a ∈ l, r.contains (key a) = true) : (l.foldl put r).keys = r.keys := by
  induction l generalizing r with
  | nil => rfl
  | cons a l ih =>
    obtain ⟨ha, hl⟩ := List.forall_mem_cons.mp h
    obtain ⟨b, hb, hk⟩ := contains_iff.mp ha
    have hkeys : (r.put a).keys = r.keys := keys_put_of_mem hb hk
    exact (ih fun c hc => (contains_congr hkeys _).trans (hl c hc)).trans hkeys

theorem find?_foldl_put {l : List α} {r : Roll α} {k : κ} (h : ∀ a ∈ l, key a ≠ k) :
    (l.foldl put r).find? k = r.find? k := by
  induction l generalizing r with
  | nil => rfl
  | cons a l ih =>
    obtain ⟨ha, hl⟩ := List.forall_mem_cons.mp h
    exact (ih hl).trans (find?_put_of_ne ha)

theorem nodup_keys_filter (p : α → Bool) (r : Roll α) : ((r.toList.filter p).map key).Nodup :=
  (List.filter_sublist.map key).nodup (nodup_keys r)

theorem mem_keys_filter {p : α → Bool} {f : α → α} (h : ∀ a, key (f a) = key a) {r : Roll α}
    (hp : ∀ a ∈ r.toList, p a = true ↔ f a ≠ a) {k : κ} :
    k ∈ (r.toList.filter p).map key ↔ (r.map f h).find? k ≠ r.find? k := by
  rw [find?_map, List.mem_map]
  constructor
  · rintro ⟨a, ha, rfl⟩
    obtain ⟨ha, hpa⟩ := List.mem_filter.mp ha
    rw [find?_of_mem ha]
    exact fun e => (hp a ha).mp hpa (Option.some.inj e)
  · intro hne
    cases hf : r.find? k with
    | none => exact absurd (by rw [hf]; rfl) hne
    | some a =>
      have ha := mem_of_find? hf
      have hfa : f a ≠ a := fun e => hne (by rw [hf, Option.map_some, e])
      exact ⟨a, List.mem_filter.mpr ⟨ha, (hp a ha).mpr hfa⟩, key_of_find? hf⟩

theorem mem_erase [DecidableEq κ] {r : Roll α} {k : κ} {a : α} :
    a ∈ (r.erase k).toList ↔ a ∈ r.toList ∧ key a ≠ k := by
  simp [erase, filter]

theorem mem_filter {p : α → Bool} {r : Roll α} {a : α} :
    a ∈ (r.filter p).toList ↔ a ∈ r.toList ∧ p a = true := List.mem_filter

theorem filter_map {p : α → Bool} {f : α → α} {h : ∀ a, key (f a) = key a} {r : Roll α}
    (hp : ∀ a, p (f a) = p a) : (r.map f h).filter p = (r.filter p).map f h := by
  refine ext (List.filter_map.trans (congrArg (List.map f) ?_))
  exact List.filter_congr fun a _ => hp a

theorem mem_of_mem_ofList {a : α} {l : List α} (h : a ∈ (ofList l).toList) : a ∈ l := by
  induction l with
  | nil => cases h
  | cons b l ih =>
    rw [ofList_cons] at h
    split at h
    · exact List.mem_cons_of_mem _ (ih h)
    · rcases mem_put.mp h with rfl | ⟨h, _⟩
      · exact List.mem_cons_self
      · exact List.mem_cons_of_mem _ (ih h)

theorem contains_ofList {l : List α} {k : κ} :
    (ofList l).contains k = true ↔ ∃ a ∈ l, key a = k := by
  rw [contains_iff]
  refine ⟨fun ⟨a, ha, hk⟩ => ⟨a, mem_of_mem_ofList ha, hk⟩, ?_⟩
  rintro ⟨a, ha, rfl⟩
  induction l with
  | nil => cases ha
  | cons b l ih =>
    rw [ofList_cons]
    split
    · rename_i hb
      rcases List.mem_cons.mp ha with rfl | ha
      · exact contains_iff.mp hb
      · exact ih ha
    · rcases List.mem_cons.mp ha with rfl | ha
      · exact ⟨a, mem_put.mpr (Or.inl rfl), rfl⟩
      · obtain ⟨c, hc, hk⟩ := ih ha
        by_cases hcb : key c = key b
        · exact ⟨b, mem_put.mpr (Or.inl rfl), hcb.symm.trans hk⟩
        · exact ⟨c, mem_put.mpr (Or.inr ⟨hc, hcb⟩), hk⟩

theorem mem_ofList_of_nodup {l : List α} (hl : (l.map key).Nodup) {a : α} :
    a ∈ (ofList l).toList ↔ a ∈ l := by
  refine ⟨mem_of_mem_ofList, ?_⟩
  induction l with
  | nil => exact id
  | cons b l ih =>
    obtain ⟨hb, hl⟩ := List.nodup_cons.mp hl
    have hnew : (ofList l).contains (key b) = false := by
      rw [contains_eq_false, find?_eq_none]
      intro c hc hk
      exact hb (hk ▸ List.mem_map_of_mem (mem_of_mem_ofList hc))
    intro ha
    rw [ofList_cons, hnew, if_neg Bool.false_ne_true, mem_put]
    rcases List.mem_cons.mp ha with rfl | ha
    · exact Or.inl rfl
    · refine Or.inr ⟨ih hl ha, fun hk => hb ?_⟩
      exact hk ▸ List.mem_map_of_mem ha

theorem mem_foldl_put {l : List α} (hl : (l.map key).Nodup) {r : Roll α} {a : α} :
    a ∈ (l.foldl put r).toList ↔ a ∈ l ∨ (a ∈ r.toList ∧ ∀ b ∈ l, key a ≠ key b) := by
  induction l generalizing r with
  | nil => simp
  | cons b l ih =>
    obtain ⟨hb, hl⟩ := List.nodup_cons.mp hl
    have hne : ∀ c ∈ l, key b ≠ key c := fun c hc e => hb (e ▸ List.mem_map_of_mem hc)
    rw [List.foldl_cons, ih hl, mem_put, List.mem_cons, List.forall_mem_cons]
    constructor
    · rintro (ha | ⟨rfl | ⟨ha, hk⟩, hrest⟩)
      · exact Or.inl (Or.inr ha)
      · exact Or.inl (Or.inl rfl)
      · exact Or.inr ⟨ha, hk, hrest⟩
    · rintro ((rfl | ha) | ⟨ha, hk, hrest⟩)
      · exact Or.inr ⟨Or.inl rfl, hne⟩
      · exact Or.inl ha
      · exact Or.inr ⟨Or.inr ⟨ha, hk⟩, hrest⟩

end Watershed.Roll
