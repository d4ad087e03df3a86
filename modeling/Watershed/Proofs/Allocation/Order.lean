import Watershed.Allocation.Steps
import Watershed.Proofs.Allocation.Sources

namespace Watershed.Allocation

variable {home : ParcelId} {pool : Plan}

def emptyInTurn : Count → List (ParcelId × Count) → List (ParcelId × Count)
  | _, [] => []
  | outstanding, x :: rest =>
    if outstanding = 0 then []
    else
      (x.1, min x.2 outstanding) :: emptyInTurn (outstanding.subDownTo (min x.2 outstanding)) rest

def homeDraw (pool : Plan) (home : ParcelId) (required : Count) : List (ParcelId × Count) :=
  if min (pool.on home) required = 0 then [] else [(home, min (pool.on home) required)]

def beyondHome (pool : Plan) (home : ParcelId) (required : Count) : Count :=
  required.subDownTo (min (pool.on home) required)

def orderedDraws (pool : Plan) (home : ParcelId) (required : Count) : List (ParcelId × Count) :=
  homeDraw pool home required ++ emptyInTurn (beyondHome pool home required) (sources pool home)

theorem emptyInTurn_zero (l : List (ParcelId × Count)) : emptyInTurn 0 l = [] := by
  cases l with
  | nil => rfl
  | cons x l => exact if_pos rfl

theorem emptyInTurn_cons {n : Count} (h : n ≠ 0) (x : ParcelId × Count)
    (l : List (ParcelId × Count)) : emptyInTurn n (x :: l) =
      (x.1, min x.2 n) :: emptyInTurn (n.subDownTo (min x.2 n)) l :=
  if_neg h

def emptied (n : Count) (l : List (ParcelId × Count)) : Except Count (List (ParcelId × Count)) :=
  if Count.total (l.map (·.2)) < n.val then .error (.clamp (n.val - Count.total (l.map (·.2))))
  else .ok (emptyInTurn n l)

theorem emptied_zero (l : List (ParcelId × Count)) : emptied 0 l = .ok [] := by
  rw [emptied, Count.val_zero, if_neg (Nat.not_lt_zero _), emptyInTurn_zero]

theorem emptied_nil {n : Count} (h : n ≠ 0) : emptied n [] = .error n := by
  have hpos := Count.pos_of_ne h
  have hlt := n.val_lt
  rw [emptied, List.map_nil, Count.total, if_pos hpos]
  exact congrArg Except.error (Count.ext (by rw [Count.val_clamp]; omega))

theorem emptied_cons {n : Count} (h : n ≠ 0) (x : ParcelId × Count) (l : List (ParcelId × Count)) :
    emptied n (x :: l) =
      (emptied (n.subDownTo (min x.2 n)) l).map ((x.1, min x.2 n) :: ·) := by
  have hless : (n.subDownTo (min x.2 n)).val = n.val - min x.2.val n.val := by simp
  rw [emptied, emptied, emptyInTurn_cons h, List.map_cons, Count.total, hless]
  by_cases hlt : x.2.val + Count.total (l.map (·.2)) < n.val
  · rw [if_pos hlt, if_pos (by omega)]
    exact congrArg Except.error (congrArg Count.clamp (by omega))
  · rw [if_neg hlt, if_neg (by omega)]
    rfl

theorem sources_after_draw {x : ParcelId × Count} {rest : List (ParcelId × Count)}
    (h : sources pool home = x :: rest) (n : Count) :
    sources (pool.put (x.1, x.2.subDownTo (min x.2 n))) home = rest ∨
      n.subDownTo (min x.2 n) = 0 := by
  rcases Nat.le_total x.2.val n.val with hle | hle
  · have hdry : x.2.subDownTo (min x.2 n) = 0 :=
      Count.ext (by simp only [Count.val_subDownTo, Count.val_min, Count.val_zero]; omega)
    exact Or.inl (hdry ▸ sources_put_dry h)
  · exact Or.inr (Count.ext (by simp only [Count.val_subDownTo, Count.val_min, Count.val_zero]; omega))

theorem drawRichest_zero (home : ParcelId) (pool : Plan) : drawRichest home pool 0 = .ok [] := by
  rw [drawRichest, if_pos rfl]

theorem drawRichest_of_dry (h : sources pool home = []) {n : Count} (hn : n ≠ 0) :
    drawRichest home pool n = .error n := by
  have hrichest : richest home pool.toList = none := by rw [richest_eq_head?, h, List.head?_nil]
  rw [drawRichest, if_neg hn]
  split
  · rfl
  · rename_i hx
    rw [hrichest] at hx
    cases hx

theorem drawRichest_of_source {x : ParcelId × Count} {rest : List (ParcelId × Count)}
    (h : sources pool home = x :: rest) {n : Count} (hn : n ≠ 0) :
    drawRichest home pool n =
      (drawRichest home (pool.put (x.1, x.2.subDownTo (min x.2 n)))
        (n.subDownTo (min x.2 n))).map ((x.1, min x.2 n) :: ·) := by
  have hrichest : richest home pool.toList = some x := by rw [richest_eq_head?, h, List.head?_cons]
  rw [drawRichest, if_neg hn]
  split
  · rename_i hnone
    rw [hrichest] at hnone
    cases hnone
  · rename_i y hy
    obtain rfl : x = y := Option.some.inj (hrichest.symm.trans hy)
    dsimp only
    cases drawRichest home (pool.put (x.1, x.2.subDownTo (min x.2 n))) (n.subDownTo (min x.2 n)) <;>
      rfl

theorem drawRichest_eq {l : List (ParcelId × Count)} (h : sources pool home = l) (n : Count) :
    drawRichest home pool n = emptied n l := by
  induction l generalizing pool n with
  | nil =>
    by_cases hn : n = 0
    · rw [hn, drawRichest_zero, emptied_zero]
    · rw [drawRichest_of_dry h hn, emptied_nil hn]
  | cons x rest ih =>
    by_cases hn : n = 0
    · rw [hn, drawRichest_zero, emptied_zero]
    · rw [drawRichest_of_source h hn, emptied_cons hn]
      rcases sources_after_draw h n with hrest | hdone
      · rw [ih hrest]
      · rw [hdone, drawRichest_zero, emptied_zero]

def richerPair (best next : Option (ParcelId × Count)) : Option (ParcelId × Count) :=
  match best, next with
  | none, y => y
  | some x, none => some x
  | some x, some y => if x.2 < y.2 then some y else some x

theorem richerPair_none (best : Option (ParcelId × Count)) : richerPair best none = best := by
  cases best <;> rfl

theorem richest_skip {x : ParcelId × Count} (h : x.1 = home ∨ x.2 = 0)
    (l : List (ParcelId × Count)) : richest home (x :: l) = richest home l := by
  rw [richest]
  cases hl : richest home l with
  | none => exact if_pos h
  | some y =>
    have hy := richest_pos hl
    refine if_pos (h.imp_right fun hx => ?_)
    rw [Count.lt_iff, hx, Count.val_zero]
    exact hy

theorem richest_keep {x : ParcelId × Count} (h : ¬ (x.1 = home ∨ x.2 = 0))
    (l : List (ParcelId × Count)) :
    richest home (x :: l) = richerPair (some x) (richest home l) := by
  rw [richest]
  cases richest home l with
  | none => exact if_neg h
  | some y =>
    have hhome : x.1 ≠ home := fun e => h (Or.inl e)
    simp only [richerPair, hhome, false_or]

theorem richerPair_assoc (a b c : Option (ParcelId × Count)) :
    richerPair (richerPair a b) c = richerPair a (richerPair b c) := by
  cases a with
  | none => rfl
  | some x =>
    cases b with
    | none => rfl
    | some y =>
      cases c with
      | none => rw [richerPair_none, richerPair_none]
      | some z =>
        by_cases hxy : x.2.val < y.2.val
        · by_cases hyz : y.2.val < z.2.val
          · have hxz : x.2.val < z.2.val := Nat.lt_trans hxy hyz
            simp only [richerPair, Count.lt_iff, if_pos hxy, if_pos hyz, if_pos hxz]
          · simp only [richerPair, Count.lt_iff, if_pos hxy, if_neg hyz]
        · by_cases hyz : y.2.val < z.2.val
          · simp only [richerPair, Count.lt_iff, if_neg hxy, if_pos hyz]
          · have hxz : ¬ x.2.val < z.2.val := by omega
            simp only [richerPair, Count.lt_iff, if_neg hxy, if_neg hyz, if_neg hxz]

theorem foldl_richerOf (l : List (ParcelId × Count)) (best : Option (ParcelId × Count)) :
    l.foldl (richerOf home) best = richerPair best (richest home l) := by
  induction l generalizing best with
  | nil => exact (richerPair_none best).symm
  | cons x l ih =>
    rw [List.foldl_cons, ih]
    by_cases h : x.1 = home ∨ x.2 = 0
    · rw [richerOf.eq_def, if_pos h, richest_skip h]
    · have hpair : richerOf home best x = richerPair best (some x) := by
        rw [richerOf.eq_def, if_neg h]
        cases best <;> rfl
      rw [hpair, richest_keep h, richerPair_assoc]

theorem search_eq (home : ParcelId) (pool : Plan) :
    search home pool = (sources pool home).head? := by
  rw [← richest_eq_head?]
  exact foldl_richerOf pool.toList none

namespace Drawing

theorem turn_done {d : Drawing} (h : d.outstanding = 0) : d.turn home = .done (.ok d.drawn) := by
  rw [turn, h]
  rfl

theorem turn_short {d : Drawing} (h : d.outstanding ≠ 0) (hs : sources d.available home = []) :
    d.turn home = .done (.error d.outstanding) := by
  have hpos : 0 < d.outstanding := Count.pos_of_ne h
  rw [turn, if_pos hpos, search_eq, hs]
  rfl

theorem turn_onward {d : Drawing} (h : d.outstanding ≠ 0) {x : ParcelId × Count}
    {rest : List (ParcelId × Count)} (hs : sources d.available home = x :: rest) :
    d.turn home = .onward (d.take x) := by
  have hpos : 0 < d.outstanding := Count.pos_of_ne h
  rw [turn, if_pos hpos, search_eq, hs]
  rfl

theorem run_done {d : Drawing} (h : d.outstanding = 0) {turns : Nat} (hturns : 0 < turns) :
    d.run home turns = some (.ok d.drawn) := by
  obtain ⟨turns, rfl⟩ := Nat.exists_eq_succ_of_ne_zero (Nat.ne_of_gt hturns)
  rw [run, turn_done h]

theorem run_eq {d : Drawing} {l : List (ParcelId × Count)} (hs : sources d.available home = l)
    {turns : Nat} (hturns : l.length < turns) :
    d.run home turns = some ((emptied d.outstanding l).map (d.drawn ++ ·)) := by
  induction l generalizing d turns with
  | nil =>
    by_cases h : d.outstanding = 0
    · rw [run_done h hturns, h, emptied_zero, Except.map, List.append_nil]
    · obtain ⟨turns, rfl⟩ := Nat.exists_eq_succ_of_ne_zero (Nat.ne_of_gt hturns)
      rw [run, turn_short h hs, emptied_nil h]
      rfl
  | cons x rest ih =>
    by_cases h : d.outstanding = 0
    · rw [run_done h (Nat.zero_lt_of_lt hturns), h, emptied_zero, Except.map, List.append_nil]
    · obtain ⟨turns, rfl⟩ := Nat.exists_eq_succ_of_ne_zero (Nat.ne_of_gt (Nat.zero_lt_of_lt hturns))
      have hless : rest.length < turns := Nat.lt_of_succ_lt_succ hturns
      have hnext : (d.take x).run home turns =
          some ((emptied (d.take x).outstanding rest).map ((d.take x).drawn ++ ·)) := by
        rcases sources_after_draw hs d.outstanding with hrest | hdone
        · exact ih hrest hless
        · have hout : (d.take x).outstanding = 0 := hdone
          rw [run_done hout (Nat.zero_lt_of_lt hless), hout, emptied_zero, Except.map,
            List.append_nil]
      rw [run, turn_onward h hs]
      dsimp only
      rw [hnext, emptied_cons h]
      simp only [take]
      cases emptied (d.outstanding.subDownTo (min x.2 d.outstanding)) rest <;>
        simp [Except.map]

end Drawing

theorem water_eq_sources (pool : Plan) (home : ParcelId) :
    pool.water = Count.total ((sources pool home).map (·.2)) + (pool.on home).val := by
  have hperm := ((sources_perm pool home).map (fun x => x.2.val)).sum_eq
  have hsum : (((pool.toList.filter (isSource home)).map fun x => x.2.val)).sum =
      pool.sum fun x => if x.1 = home then 0 else x.2.val := by
    rw [← Count.total_map, Count.total_map_filter]
    refine congrArg List.sum (List.map_congr_left fun x _ => ?_)
    by_cases hx : x.1 = home
    · rw [if_pos hx, if_neg (by simp [isSource, hx])]
    · by_cases hz : x.2 = 0
      · rw [if_neg hx, if_neg (by simp [isSource, hz]), hz, Count.val_zero]
      · rw [if_neg hx, if_pos (isSource_iff.mpr ⟨hx, hz⟩)]
  rw [water_eq pool home, Count.total_map, hperm, hsum]

theorem val_beyondHome (pool : Plan) (home : ParcelId) (required : Count) :
    (beyondHome pool home required).val = required.val - min (pool.on home).val required.val := by
  rw [beyondHome, Count.val_subDownTo, Count.val_min]

theorem beyondHome_of_dry {required : Count} (h : min (pool.on home) required = 0) :
    beyondHome pool home required = required :=
  Count.ext (by rw [beyondHome, h]; rfl)

theorem draw_eq_emptied (pool : Plan) (home : ParcelId) (required : Count) :
    draw pool home required = (emptied (beyondHome pool home required) (sources pool home)).map
      (homeDraw pool home required ++ ·) := by
  simp only [draw, homeDraw]
  split
  · rename_i hz
    rw [drawRichest_eq rfl, beyondHome_of_dry hz]
    cases emptied required (sources pool home) <;> rfl
  · rw [drawRichest_eq (sources_put_home pool home _)]
    rfl

theorem Drawing.start_eq (pool : Plan) (home : ParcelId) (required : Count) :
    (start pool home required).outstanding = beyondHome pool home required ∧
      (start pool home required).drawn = homeDraw pool home required ∧
      sources (start pool home required).available home = sources pool home := by
  have hdry (h : min (pool.on home) required = 0) :
      required = beyondHome pool home required ∧ [] = homeDraw pool home required ∧
        sources pool home = sources pool home :=
    ⟨(beyondHome_of_dry h).symm, (if_pos h).symm, rfl⟩
  rw [start]
  cases hf : pool.find? home with
  | none =>
    refine hdry (Count.ext ?_)
    rw [Count.val_min, Plan.on_of_find?_eq_none hf]
    exact Nat.zero_min _
  | some x =>
    obtain ⟨id, n⟩ := x
    obtain rfl : id = home := Roll.key_of_find? hf
    have hon : pool.on id = n := Plan.on_of_mem (Roll.mem_of_find? hf)
    dsimp only
    split
    · rename_i hpos
      have hne : min (pool.on id) required ≠ 0 := fun e => by
        rw [← hon, e] at hpos
        exact Nat.lt_irrefl 0 hpos
      refine ⟨by rw [beyondHome, hon]; rfl, ?_, sources_put_home pool id _⟩
      rw [homeDraw, if_neg hne, hon]
      rfl
    · rename_i hpos
      exact hdry (Count.ext (Nat.eq_zero_of_not_pos (hon.symm ▸ hpos)))

theorem length_sources_le (pool : Plan) (home : ParcelId) :
    (sources pool home).length ≤ pool.size := by
  rw [(sources_perm pool home).length_eq]
  exact List.length_filter_le _ _

theorem run_start (pool : Plan) (home : ParcelId) (required : Count) {turns : Nat}
    (hturns : pool.size < turns) :
    (Drawing.start pool home required).run home turns = some (draw pool home required) := by
  obtain ⟨hout, hdrawn, hsources⟩ := Drawing.start_eq pool home required
  rw [Drawing.run_eq hsources (Nat.lt_of_le_of_lt (length_sources_le pool home) hturns), hout, hdrawn,
    draw_eq_emptied]

theorem draw_eq_ordered (pool : Plan) (home : ParcelId) (required : Count) :
    draw pool home required =
      if pool.water < required.val then .error (.clamp (required.val - pool.water))
      else .ok (orderedDraws pool home required) := by
  have hwater := water_eq_sources pool home
  rw [draw_eq_emptied, emptied, val_beyondHome]
  by_cases hlt : pool.water < required.val
  · rw [if_pos hlt, if_pos (by omega)]
    exact congrArg Except.error (congrArg Count.clamp (by omega))
  · rw [if_neg hlt, if_neg (by omega)]
    rfl

end Watershed.Allocation
