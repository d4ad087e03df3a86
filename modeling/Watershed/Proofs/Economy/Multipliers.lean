import Watershed.Economy.Steps
import Watershed.Proofs.RatioSeries
import Watershed.Proofs.Roll.Lookup
import Watershed.Proofs.Steps
import Mathlib.Data.List.Induction

namespace Watershed

namespace Economy

theorem slot_lt_of_level {kind : AssetKind} {l l' : Count} (h : l < l') :
    ((kind, l) : AssetKind × Count) < (kind, l') := by
  have hv : l.val < l'.val := h
  show slotRank (kind, l) < slotRank (kind, l')
  simp only [slotRank]
  omega

theorem slot_lt_of_kind {k k' : AssetKind} (h : k < k') (l l' : Count) :
    ((k, l) : AssetKind × Count) < (k', l') := by
  have hk : k.position < k'.position := h
  have hl := l.val_lt
  show slotRank (k, l) < slotRank (k', l')
  simp only [slotRank]
  omega

theorem key_readSeries {kind : AssetKind} {x : Count × String} {y : (AssetKind × Count) × RatioSeries}
    (h : readSeries kind x = .ok y) : y.1 = (kind, x.1) := by
  unfold readSeries at h
  dsimp only at h
  split at h
  · cases h
  · obtain ⟨series, _, rfl⟩ := map_eq_ok.mp h
    rfl

theorem foldlM_enterSeries (kind : AssetKind) {l : List (Count × String)} (hl : Ascending l)
    {r : SeriesRoll} (hr : ∀ a ∈ r.toList, ∀ x ∈ l, a.1 < (kind, x.1)) :
    (l.foldlM (enterSeries kind) r).map Roll.toList =
      (l.mapM (readSeries kind)).map (r.toList ++ ·) := by
  induction l generalizing r with
  | nil => simp [Except.map, pure, Except.pure]
  | cons x l ih =>
    rw [List.foldlM_cons, List.mapM_cons, enterSeries]
    cases hx : readSeries kind x with
    | error e => rfl
    | ok y =>
      have hy := key_readSeries hx
      have hput : (r.put y).toList = r.toList ++ [y] :=
        Roll.toList_put_of_lt fun a ha => by
          show a.1 < y.1
          rw [hy]
          exact hr a ha x List.mem_cons_self
      have hnext : ∀ a ∈ (r.put y).toList, ∀ z ∈ l, a.1 < (kind, z.1) := by
        intro a ha z hz
        rw [hput] at ha
        rcases List.mem_append.mp ha with ha | ha
        · exact hr a ha z (List.mem_cons_of_mem x hz)
        · rw [List.mem_singleton.mp ha, hy]
          exact slot_lt_of_level (List.rel_of_pairwise_cons hl hz)
      have hrest := ih hl.tail hnext
      rw [hput] at hrest
      show (l.foldlM (enterSeries kind) (r.put y)).map Roll.toList = _
      rw [hrest]
      cases l.mapM (readSeries kind) <;> simp [Except.map, bind, Except.bind, pure, Except.pure]

def readLevels (x : AssetKind × Roll (Count × String)) :
    Except ConfigFault (List ((AssetKind × Count) × RatioSeries)) :=
  x.2.toList.mapM (readSeries x.1)

theorem readLevels_kind {x : AssetKind × Roll (Count × String)}
    {rows : List ((AssetKind × Count) × RatioSeries)} (h : readLevels x = .ok rows) :
    ∀ y ∈ rows, y.1.1 = x.1 := by
  intro y hy
  obtain ⟨z, _, hz⟩ := (mem_of_mapM_eq_ok h).mp hy
  rw [key_readSeries hz]

theorem foldlM_enterLevels {l : List (AssetKind × Roll (Count × String))} (hl : Ascending l)
    {r : SeriesRoll} (hr : ∀ a ∈ r.toList, ∀ x ∈ l, a.1.1 < x.1) :
    (l.foldlM enterLevels r).map Roll.toList =
      (l.mapM readLevels).map (r.toList ++ ·.flatten) := by
  induction l generalizing r with
  | nil => simp [Except.map, pure, Except.pure]
  | cons x l ih =>
    have hlevels := foldlM_enterSeries x.1 x.2.ascending (r := r) fun a ha y _ =>
      slot_lt_of_kind (hr a ha x List.mem_cons_self) a.1.2 y.1
    rw [List.foldlM_cons, List.mapM_cons, enterLevels]
    cases hx : readLevels x with
    | error e =>
      rw [show x.2.toList.mapM (readSeries x.1) = .error e from hx] at hlevels
      rw [map_eq_error.mp hlevels]
      rfl
    | ok rows =>
      rw [show x.2.toList.mapM (readSeries x.1) = .ok rows from hx] at hlevels
      obtain ⟨r', hfold, hr'⟩ := map_eq_ok.mp hlevels
      have hnext : ∀ a ∈ r'.toList, ∀ z ∈ l, a.1.1 < z.1 := by
        intro a ha z hz
        rw [hr'] at ha
        rcases List.mem_append.mp ha with ha | ha
        · exact hr a ha z (List.mem_cons_of_mem x hz)
        · rw [readLevels_kind hx a ha]
          exact List.rel_of_pairwise_cons hl hz
      have hrest := ih hl.tail hnext
      rw [hr'] at hrest
      rw [hfold, ok_bind, ok_bind, hrest]
      cases l.mapM readLevels <;>
        simp [Except.map, bind, Except.bind, pure, Except.pure]

theorem ofSettings_eq (s : EconomySettings) :
    ofSettings s = (s.series.toList.mapM readLevels).map fun rows => mk rows.flatten := by
  show (s.series.toList.mapM readLevels >>= fun rows => .ok (mk rows.flatten)) = _
  cases s.series.toList.mapM readLevels <;> rfl

theorem run_configureSteps (s : EconomySettings) (e : Economy) :
    (configureSteps s).run e = match ofSettings s with
      | .ok e' => .ok () e'
      | .error f => .error f e := by
  have hfold := foldlM_enterLevels s.series.ascending (r := .empty) fun a ha => (by cases ha)
  rw [configureSteps, EStateM.run_bind, run_ofExcept, ofSettings_eq]
  cases hread : s.series.toList.mapM readLevels with
  | error f =>
    rw [hread] at hfold
    rw [map_eq_error.mp hfold]
    rfl
  | ok rows =>
    rw [hread] at hfold
    obtain ⟨r, hr, hrows⟩ := map_eq_ok.mp hfold
    rw [hr]
    show EStateM.Result.ok () (Economy.mk r.toList) = .ok () ⟨rows.flatten⟩
    rw [hrows]
    rfl

theorem nodup_slots {s : EconomySettings} {e : Economy} (h : ofSettings s = .ok e) :
    (e.series.map (·.1)).Nodup := by
  have hrun := run_configureSteps s e
  unfold configureSteps at hrun
  rw [h, EStateM.run_bind, run_ofExcept] at hrun
  cases hr : s.series.toList.foldlM enterLevels .empty with
  | error f =>
    rw [hr] at hrun
    cases hrun
  | ok r =>
    rw [hr] at hrun
    cases hrun
    exact r.nodup_keys

end Economy

namespace EconomySettings

def text? (s : EconomySettings) (kind : AssetKind) (level : Count) : Option String :=
  (s.series.find? kind).bind fun x => (x.2.find? level).map (·.2)

theorem text?_eq_some {s : EconomySettings} {kind : AssetKind} {level : Count} {text : String} :
    s.text? kind level = some text ↔
      ∃ x ∈ s.series.toList, x.1 = kind ∧ (level, text) ∈ x.2.toList := by
  simp only [text?, Option.bind_eq_some_iff, Option.map_eq_some_iff, Roll.find?_eq_some]
  constructor
  · rintro ⟨x, ⟨hx, hkind⟩, ⟨l, t⟩, ⟨ht, rfl⟩, rfl⟩
    exact ⟨x, hx, hkind, ht⟩
  · rintro ⟨x, hx, hkind, ht⟩
    exact ⟨x, ⟨hx, hkind⟩, _, ⟨ht, rfl⟩, rfl⟩

def HasLevel (kind : AssetKind) (level : Count) : Prop := 1 ≤ level.val ∧ level.val ≤ kind.maxLevel

def Readable (text : String) : Prop := (RatioSeries.read text.toList).isOk = true

def Acceptable (s : EconomySettings) : Prop :=
  ∀ x ∈ s.series.toList, ∀ y ∈ x.2.toList, HasLevel x.1 y.1 ∧ Readable y.2

instance (kind : AssetKind) (level : Count) : Decidable (HasLevel kind level) :=
  inferInstanceAs (Decidable (_ ∧ _))

instance (text : String) : Decidable (Readable text) := inferInstanceAs (Decidable (_ = _))

instance : DecidablePred Acceptable := fun s =>
  inferInstanceAs (Decidable (∀ x ∈ s.series.toList, ∀ y ∈ x.2.toList, _ ∧ _))

end EconomySettings

namespace Economy

open EconomySettings

theorem not_hasLevel_iff {kind : AssetKind} {level : Count} :
    ¬ HasLevel kind level ↔ level = 0 ∨ kind.maxLevel < level.val := by
  rw [← Count.val_inj, Count.val_zero, HasLevel]
  omega

theorem readSeries_eq_ok {kind : AssetKind} {x : Count × String}
    {y : (AssetKind × Count) × RatioSeries} :
    readSeries kind x = .ok y ↔ HasLevel kind x.1 ∧
      ∃ series, RatioSeries.readFor (settingsKey kind x.1) x.2 = .ok series ∧
        ((kind, x.1), series) = y := by
  simp only [readSeries, ← not_hasLevel_iff]
  by_cases h : HasLevel kind x.1
  · rw [if_neg (not_not.mpr h), map_eq_ok, and_iff_right h]
  · rw [if_pos h]
    exact iff_of_false (fun h => by cases h) fun h' => h h'.1

theorem readFor_isOk (key : String) {text : String} :
    (∃ series, RatioSeries.readFor key text = .ok series) ↔ Readable text := by
  unfold RatioSeries.readFor Readable
  simp only [mapError_eq_ok]
  cases RatioSeries.read text.toList <;> simp [Except.isOk, Except.toBool]

theorem exists_readSeries_ok {kind : AssetKind} {x : Count × String} :
    (∃ y, readSeries kind x = .ok y) ↔ HasLevel kind x.1 ∧ Readable x.2 := by
  simp only [readSeries_eq_ok, ← readFor_isOk (settingsKey kind x.1)]
  constructor
  · rintro ⟨_, hlevel, series, hseries, _⟩
    exact ⟨hlevel, series, hseries⟩
  · rintro ⟨hlevel, series, hseries⟩
    exact ⟨_, hlevel, series, hseries, rfl⟩

theorem exists_ofSettings_ok {s : EconomySettings} : (∃ e, ofSettings s = .ok e) ↔ s.Acceptable := by
  have hrows : (∃ e, ofSettings s = .ok e) ↔ ∃ rows, s.series.toList.mapM readLevels = .ok rows := by
    simp only [ofSettings_eq, map_eq_ok]
    exact ⟨fun ⟨_, rows, h, _⟩ => ⟨rows, h⟩, fun ⟨rows, h⟩ => ⟨_, rows, h, rfl⟩⟩
  rw [hrows, exists_mapM_ok]
  refine forall₂_congr fun x _ => ?_
  rw [readLevels, exists_mapM_ok]
  exact forall₂_congr fun y _ => exists_readSeries_ok

theorem mem_series {s : EconomySettings} {e : Economy} (h : ofSettings s = .ok e)
    {y : (AssetKind × Count) × RatioSeries} : y ∈ e.series ↔ ∃ text,
      s.text? y.1.1 y.1.2 = some text ∧ readSeries y.1.1 (y.1.2, text) = .ok y := by
  obtain ⟨rows, hrows, rfl⟩ := map_eq_ok.mp ((ofSettings_eq s).symm.trans h)
  simp only [List.mem_flatten, mem_of_mapM_eq_ok hrows, text?_eq_some]
  constructor
  · rintro ⟨row, ⟨x, hx, hrow⟩, hy⟩
    obtain ⟨⟨level, text⟩, hz, hread⟩ := (mem_of_mapM_eq_ok hrow).mp hy
    obtain ⟨_, series, _, rfl⟩ := readSeries_eq_ok.mp hread
    exact ⟨text, ⟨x, hx, rfl, hz⟩, hread⟩
  · rintro ⟨text, ⟨x, hx, hkind, ht⟩, hread⟩
    obtain ⟨row, hrow⟩ := exists_mapM_ok.mp ⟨rows, hrows⟩ x hx
    exact ⟨row, ⟨x, hx, hrow⟩, (mem_of_mapM_eq_ok hrow).mpr ⟨_, ht, hkind ▸ hread⟩⟩

theorem seriesFor_cons (x : (AssetKind × Count) × RatioSeries) (l : List ((AssetKind × Count) × RatioSeries))
    (kind : AssetKind) (level : Nat) : (mk (x :: l)).seriesFor kind level =
      if x.1.1 = kind ∧ x.1.2.val = level then some x.2 else (mk l).seriesFor kind level := by
  unfold seriesFor
  rw [List.find?_cons]
  by_cases h : x.1.1 = kind ∧ x.1.2.val = level
  · simp [h]
  · rw [if_neg h, show (decide (x.1.1 = kind) && decide (x.1.2.val = level)) = false by simpa using h]

theorem seriesFor_eq_some {e : Economy} (he : (e.series.map (·.1)).Nodup) {kind : AssetKind}
    {level : Count} {series : RatioSeries} :
    e.seriesFor kind level.val = some series ↔ ((kind, level), series) ∈ e.series := by
  obtain ⟨l⟩ := e
  induction l with
  | nil => simp [seriesFor]
  | cons x l ih =>
    obtain ⟨hx, hl⟩ := List.nodup_cons.mp he
    rw [seriesFor_cons]
    split
    · rename_i hslot
      have hslot : x.1 = (kind, level) := Prod.ext hslot.1 (Count.ext hslot.2)
      constructor
      · intro h
        obtain rfl := Option.some.inj h
        exact List.mem_cons.mpr (Or.inl (Prod.ext hslot.symm rfl))
      · intro h
        rcases List.mem_cons.mp h with rfl | h
        · rfl
        · exact absurd (List.mem_map.mpr ⟨_, h, hslot.symm⟩) hx
    · rename_i hslot
      rw [ih hl, List.mem_cons]
      refine (or_iff_right ?_).symm
      rintro rfl
      exact hslot ⟨rfl, rfl⟩

theorem seriesFor_eq_none {e : Economy} {kind : AssetKind} {level : Count}
    (h : (kind, level) ∉ e.series.map (·.1)) : e.seriesFor kind level.val = none := by
  unfold seriesFor
  rw [Option.map_eq_none_iff, List.find?_eq_none]
  intro x hx hslot
  simp only [Bool.and_eq_true, decide_eq_true_eq] at hslot
  exact h (List.mem_map.mpr ⟨x, hx, Prod.ext hslot.1 (Count.ext hslot.2)⟩)

theorem getElem?_foldl_writeSlot (round : Count) {l : List ((AssetKind × Count) × RatioSeries)}
    (hl : (l.map (·.1)).Nodup) (m : Multipliers) (kind : AssetKind) (i : Nat) :
    ((l.foldl (writeSlot round) m).row kind)[i]? =
      ((m.row kind)[i]?).map fun old => (((mk l).seriesFor kind i).map (·.ratioFor round)).getD old := by
  -- each slot is written once at most, so that the order of the series does not matter
  induction l generalizing m with
  | nil => simp [seriesFor]
  | cons x l ih =>
    obtain ⟨hx, hl⟩ := List.nodup_cons.mp hl
    rw [List.foldl_cons, ih hl, seriesFor_cons, writeSlot, Multipliers.set]
    dsimp only
    by_cases hkind : kind = x.1.1
    · subst hkind
      rw [if_pos rfl, List.getElem?_set]
      by_cases hi : x.1.2.val = i
      · subst hi
        have hnone : (mk l).seriesFor x.1.1 x.1.2.val = none := seriesFor_eq_none hx
        rw [if_pos rfl, hnone, if_pos (And.intro rfl rfl)]
        by_cases hlt : x.1.2.val < (m.row x.1.1).length
        · rw [if_pos hlt, List.getElem?_eq_getElem hlt]
          rfl
        · rw [if_neg hlt, List.getElem?_eq_none (Nat.not_lt.mp hlt)]
          rfl
      · rw [if_neg hi, if_neg fun h => hi h.2]
    · rw [if_neg hkind, if_neg fun h => hkind h.1.symm]

theorem getElem?_neutral (kind : AssetKind) (i : Nat) :
    (Multipliers.neutral.row kind)[i]? = if i < kind.maxLevel + 1 then some 1 else none :=
  List.getElem?_replicate

theorem multipliersSteps_eq {e : Economy} (he : (e.series.map (·.1)).Nodup) (round : Count) :
    e.multipliersSteps round = e.multipliers round := by
  refine congrArg Multipliers.mk (funext fun kind => List.ext_getElem? fun i => ?_)
  show ((e.series.foldl (writeSlot round) .neutral).row kind)[i]? =
    ((List.range (kind.maxLevel + 1)).map (e.ratioFor round kind))[i]?
  rw [getElem?_foldl_writeSlot round he, getElem?_neutral, List.getElem?_map]
  by_cases hi : i < kind.maxLevel + 1
  · rw [if_pos hi, List.getElem?_range hi, Option.map_some, Option.map_some, ratioFor]
    cases e.seriesFor kind i <;> rfl
  · rw [if_neg hi, List.getElem?_eq_none (by rw [List.length_range]; omega)]
    rfl

theorem slot_not_mem {e : Economy} (he : ∀ x ∈ e.series, HasLevel x.1.1 x.1.2) {kind : AssetKind}
    {level : Count} (h : ¬ HasLevel kind level) : (kind, level) ∉ e.series.map (·.1) := by
  intro hslot
  obtain ⟨⟨_, series⟩, hx, rfl⟩ := List.mem_map.mp hslot
  exact h (he _ hx)

theorem get_multipliers {e : Economy} (he : ∀ x ∈ e.series, HasLevel x.1.1 x.1.2) (round : Count)
    (kind : AssetKind) (level : Count) :
    (e.multipliers round).get kind level = e.ratioFor round kind level.val := by
  rw [Multipliers.get, multipliers, List.getElem?_map]
  by_cases hi : level.val < kind.maxLevel + 1
  · rw [List.getElem?_range hi]
    rfl
  · have hnone : e.seriesFor kind level.val = none :=
      seriesFor_eq_none (slot_not_mem he fun h => hi (Nat.lt_succ_of_le h.2))
    rw [List.getElem?_eq_none (by rw [List.length_range]; omega), ratioFor, hnone]
    rfl

theorem configured_of_ok {s : EconomySettings} {e e' : Economy} (h : ofSettings s = .ok e') :
    e.configured s = e' := by
  rw [configured, run_configureSteps, h]

theorem configured_of_not_acceptable {s : EconomySettings} {e : Economy} (h : ¬ s.Acceptable) :
    e.configured s = e := by
  cases hs : ofSettings s with
  | ok e' => exact absurd (exists_ofSettings_ok.mp ⟨e', hs⟩) h
  | error f => rw [configured, run_configureSteps, hs]

def lastAccepted (calls : List EconomySettings) : Option EconomySettings :=
  (calls.filter (Acceptable ·)).getLast?

def IsOf (e : Economy) : Option EconomySettings → Prop
  | some s => ofSettings s = .ok e
  | none => e = unconfigured

theorem configuredAll_isOf (calls : List EconomySettings) :
    (unconfigured.configuredAll calls).IsOf (lastAccepted calls) := by
  induction calls using List.reverseRecOn with
  | nil => rfl
  | append_singleton calls s ih =>
    have hcalls : unconfigured.configuredAll (calls ++ [s]) =
        (unconfigured.configuredAll calls).configured s := List.foldl_concat ..
    rw [hcalls, lastAccepted, List.filter_append]
    by_cases h : s.Acceptable
    · obtain ⟨e, he⟩ := exists_ofSettings_ok.mpr h
      rw [List.filter_cons_of_pos (by simpa using h), List.filter_nil, List.getLast?_concat,
        configured_of_ok he]
      exact he
    · rw [List.filter_cons_of_neg (by simpa using h), List.filter_nil, List.append_nil,
        configured_of_not_acceptable h]
      exact ih

theorem IsOf.nodup {e : Economy} {last : Option EconomySettings} (h : e.IsOf last) :
    (e.series.map (·.1)).Nodup := by
  cases last with
  | none =>
    cases h
    exact List.nodup_nil
  | some s => exact nodup_slots h

theorem IsOf.hasLevel {e : Economy} {last : Option EconomySettings} (h : e.IsOf last) :
    ∀ x ∈ e.series, HasLevel x.1.1 x.1.2 := by
  intro x hx
  cases last with
  | none =>
    cases h
    cases hx
  | some s =>
    obtain ⟨text, _, hread⟩ := (mem_series h).mp hx
    exact (readSeries_eq_ok.mp hread).1

structure Follows (calls : List EconomySettings) (table : Count → Multipliers) : Prop where
  given : ∀ s, lastAccepted calls = some s → ∀ kind level text, s.text? kind level = some text →
    ∃ series, RatioSeries.readFor (settingsKey kind level) text = .ok series ∧
      ∀ round, (table round).get kind level = series.ratioFor round ∧
        (series.length < round.val → (table round).get kind level = 1)
  withoutSeries : ∀ s, lastAccepted calls = some s → ∀ kind level, s.text? kind level = none →
    ∀ round, (table round).get kind level = 1
  withoutCall : lastAccepted calls = none → ∀ kind level round, (table round).get kind level = 1
  outside : ∀ (kind : AssetKind) (level : Count), level = 0 ∨ kind.maxLevel < level.val →
    ∀ round, (table round).get kind level = 1
  rows : ∀ kind round, ((table round).row kind).length = kind.maxLevel + 1

theorem IsOf.follows {e : Economy} {calls : List EconomySettings} (h : e.IsOf (lastAccepted calls)) :
    Follows calls e.multipliersSteps := by
  have hget (round kind level) : (e.multipliersSteps round).get kind level =
      e.ratioFor round kind level.val := by
    rw [multipliersSteps_eq h.nodup, get_multipliers h.hasLevel]
  have hone (kind level) (hslot : (kind, level) ∉ e.series.map (·.1)) (round) :
      (e.multipliersSteps round).get kind level = 1 := by
    rw [hget, ratioFor, seriesFor_eq_none hslot]
  refine ⟨?_, ?_, ?_, ?_, ?_⟩
  · intro s hs kind level text htext
    rw [hs] at h
    obtain ⟨x, hx, rfl, ht⟩ := text?_eq_some.mp htext
    obtain ⟨y, hy⟩ := exists_readSeries_ok.mpr (exists_ofSettings_ok.mp ⟨e, h⟩ x hx _ ht)
    obtain ⟨_, series, hseries, rfl⟩ := readSeries_eq_ok.mp hy
    have hmem : ((x.1, level), series) ∈ e.series := (mem_series h).mpr ⟨text, htext, hy⟩
    have hratio (round) : (e.multipliersSteps round).get x.1 level = series.ratioFor round := by
      rw [hget, ratioFor, (seriesFor_eq_some h.nodup).mpr hmem]
    exact ⟨series, hseries, fun round => ⟨hratio round, fun hshort =>
      (hratio round).trans (RatioSeries.ratioFor_outside (Or.inr hshort))⟩⟩
  · intro s hs kind level htext
    rw [hs] at h
    refine hone kind level fun hslot => ?_
    obtain ⟨y, hy, hslot⟩ := List.mem_map.mp hslot
    obtain ⟨text, ht, _⟩ := (mem_series h).mp hy
    rw [hslot, htext] at ht
    cases ht
  · intro hs kind level
    rw [hs] at h
    cases h
    exact hone kind level List.not_mem_nil
  · intro kind level hout
    exact hone kind level (slot_not_mem h.hasLevel (not_hasLevel_iff.mpr hout))
  · intro kind round
    rw [multipliersSteps_eq h.nodup]
    simp [multipliers]

structure RefusedWhole (e : Economy) (s : EconomySettings) : Prop where
  refused : (∃ f e', (configureSteps s).run e = .error f e') ↔
    ∃ x ∈ s.series.toList, ∃ y ∈ x.2.toList,
      y.1 = 0 ∨ x.1.maxLevel < y.1.val ∨ ∃ f, RatioSeries.read y.2.toList = .error f
  unchanged : ∀ f e', (configureSteps s).run e = .error f e' → e' = e

theorem not_readable_iff {text : String} :
    ¬ Readable text ↔ ∃ f, RatioSeries.read text.toList = .error f := by
  unfold Readable
  cases RatioSeries.read text.toList <;> simp [Except.isOk, Except.toBool]

theorem not_acceptable_iff {s : EconomySettings} : ¬ s.Acceptable ↔
    ∃ x ∈ s.series.toList, ∃ y ∈ x.2.toList,
      y.1 = 0 ∨ x.1.maxLevel < y.1.val ∨ ∃ f, RatioSeries.read y.2.toList = .error f := by
  simp only [Acceptable, not_forall, exists_prop, not_and_or, not_readable_iff, not_hasLevel_iff,
    or_assoc]

theorem refusedWhole (e : Economy) (s : EconomySettings) : RefusedWhole e s := by
  constructor
  · rw [← not_acceptable_iff, ← exists_ofSettings_ok, run_configureSteps]
    cases ofSettings s <;> simp
  · intro f e' h
    rw [run_configureSteps] at h
    cases hs : ofSettings s with
    | ok _ =>
      rw [hs] at h
      cases h
    | error _ =>
      rw [hs] at h
      cases h
      rfl

theorem follows_last_accepted :
    (∀ calls, Follows calls (unconfigured.configuredAll calls).multipliersSteps ∧
      ∀ round, (unconfigured.configuredAll calls).multipliersSteps round =
        (unconfigured.configuredAll calls).multipliers round) ∧
    ∀ e s, RefusedWhole e s :=
  ⟨fun calls => ⟨(configuredAll_isOf calls).follows,
    multipliersSteps_eq (configuredAll_isOf calls).nodup⟩, refusedWhole⟩

end Economy
end Watershed
