import Watershed.Proofs.Season.Criterion
import Watershed.Proofs.Season.Turns

namespace Watershed

open Season

namespace Season

def Call.AtDesk (_ : Season) (c : Call) : Prop := ∃ asset player n, c = .changeAtDesk asset player n

theorem changeAtDesk_season {s : Season} (h : s.accepting = true) (asset : AssetId)
    (player : PlayerId) (n : Count) :
    (s.changeAtDesk asset player n).season = { s with game := s.game.serve ⟨asset, player, n⟩ } := by
  rw [changeAtDesk_eq h]
  rcases s.game.serve_cases ⟨asset, player, n⟩ with ⟨e, he, hs⟩ | ⟨m, hm, _, hs⟩
  · rw [hs]
    unfold Game.answer at he
    cases hm : s.game.changeAllocation asset player n with
    | ok m =>
      rw [hm] at he
      cases he
    | error e => rfl
  · rw [hs, hm]

end Season

namespace Errand

variable (e : Errand) (s : Season) (p : PlayerId)

theorem step_season : (e.step s p).1 = s ∨ ∃ a n, (e.step s p).1 = (s.changeAtDesk a p n).season := by
  unfold step
  split
  · exact Or.inl rfl
  · split
    · refine Or.inr ?_
      dsimp only
      split
      · exact ⟨_, _, rfl⟩
      split
      · exact ⟨_, _, rfl⟩
      · exact ⟨_, _, rfl⟩
    · exact Or.inl rfl
    · exact Or.inr ⟨_, _, rfl⟩

theorem step_run : Run Call.AtDesk s (e.step s p).1 := by
  rcases e.step_season s p with h | ⟨a, n, h⟩
  · rw [h]
  · exact .single ⟨.changeAtDesk a p n, ⟨a, p, n, rfl⟩, h⟩

theorem togo_eq_zero : e.togo = 0 ↔ e.wants = [] := by
  have hsteps : e.next.steps ≤ 2 := by cases e.next <;> simp [Asking.steps]
  rw [togo, ← List.length_eq_zero_iff]
  omega

theorem step_togo : (e.step s p).2.togo ≤ e.togo - 1 := by
  obtain ⟨wants, next, tally⟩ := e
  cases wants with
  | nil => simp [step, togo]
  | cons a rest =>
    cases next with
    | whole =>
      simp only [step]
      split
      · simp only [togo, settle, Asking.steps, List.tail_cons, List.length_cons]
        omega
      split
      · simp only [togo, Asking.steps, List.length_cons]
        omega
      · simp only [togo, settle, Asking.steps, List.tail_cons, List.length_cons]
        omega
    | look =>
      simp only [step, togo, Asking.steps, List.length_cons]
      omega
    | part n =>
      simp only [step, togo, settle, Asking.steps, List.tail_cons, List.length_cons]
      omega

end Errand

namespace Hall

variable (h : Hall) {p q : PlayerId}

theorem turns_append (l l' : List PlayerId) : h.turns (l ++ l') = (h.turns l).turns l' :=
  List.foldl_append ..

theorem errands_turn_self : (h.turn p).errands p = ((h.errands p).step h.season p).2 := if_pos rfl

theorem errands_turn_other (hne : p ≠ q) : (h.turn q).errands p = h.errands p := if_neg hne

theorem turns_run (order : List PlayerId) : Run Call.AtDesk h.season (h.turns order).season := by
  induction order generalizing h with
  | nil => exact .refl
  | cons q order ih => exact ((h.errands q).step_run h.season q).trans (ih (h.turn q))

theorem togo_turns (order : List PlayerId) (p : PlayerId) :
    ((h.turns order).errands p).togo ≤ (h.errands p).togo - order.count p := by
  induction order generalizing h with
  | nil => exact Nat.le_refl _
  | cons q order ih =>
    refine (ih (h.turn q)).trans ?_
    by_cases hq : p = q
    · subst hq
      have hstep := (h.errands p).step_togo h.season p
      rw [h.errands_turn_self, List.count_cons_self]
      omega
    · rw [h.errands_turn_other hq, List.count_cons_of_ne (fun e => hq e.symm)]

theorem count_remaining {players : List PlayerId} (hp : p ∈ players) :
    (h.errands p).togo ≤ (h.remaining players).count p := by
  have hsub : (List.replicate (h.errands p).togo p).Sublist (h.remaining players) := by
    rw [remaining, List.flatMap_def]
    exact List.sublist_flatten_of_mem (List.mem_map_of_mem hp)
  have hcount := hsub.count_le p
  rwa [List.count_replicate_self] at hcount

end Hall

namespace Season

theorem mem_askers {g : Game} {p : PlayerId} : p ∈ askers g ↔ ∃ a ∈ g.assets.toList, a.owner = p := by
  have hkeys : p ∈ askers g ↔
      (Roll.ofList (g.assets.toList.map fun a => (a.owner, ()))).contains p = true := by
    rw [Roll.contains_iff, askers, Roll.keys, List.mem_map]
  rw [hkeys, Roll.contains_ofList]
  constructor
  · rintro ⟨x, hx, rfl⟩
    obtain ⟨a, ha, rfl⟩ := List.mem_map.mp hx
    exact ⟨a, ha, rfl⟩
  · rintro ⟨a, ha, rfl⟩
    exact ⟨(a.owner, ()), List.mem_map_of_mem ha, rfl⟩

theorem wants_eq_nil {g : Game} {p : PlayerId} (h : p ∉ askers g) : wants g p = [] := by
  refine List.eq_nil_iff_forall_not_mem.mpr fun a ha => h ?_
  obtain ⟨ha, ho⟩ := mem_wants.mp ha
  exact mem_askers.mpr ⟨a, ha, ho⟩

theorem turns_settled (s : Season) (order : List PlayerId) :
    (s.hall.turns (order ++ (s.hall.turns order).remaining (askers s.game))).Settled := by
  -- every turn of a player with something left is one step less to go
  intro p
  rw [← Errand.togo_eq_zero, Hall.turns_append]
  by_cases hp : p ∈ askers s.game
  · have htogo := (s.hall.turns order).togo_turns ((s.hall.turns order).remaining (askers s.game)) p
    have hcount := (s.hall.turns order).count_remaining hp
    omega
  · have hidle : (s.hall.errands p).togo = 0 := (s.hall.errands p).togo_eq_zero.mpr (wants_eq_nil hp)
    have htogo := s.hall.togo_turns (order ++ (s.hall.turns order).remaining (askers s.game)) p
    rw [Hall.turns_append] at htogo
    omega

end Season

namespace Hall

structure Kept (s₀ : Season) (h : Hall) : Prop where
  accepting : h.season.accepting = true
  spending : Spending h.season
  underway : ∀ p ∈ s₀.game.players.toList, ∃ done,
    Errand.Underway done p (h.season.game.view p.id) (h.errands p.id) ∧
      done ++ (h.errands p.id).wants = wants s₀.game p.id

variable {s₀ : Season} {h : Hall}

theorem Kept.opening (ha : s₀.accepting = true) (hs : Spending s₀) (hi : s₀.game.Idle) :
    Kept s₀ s₀.hall := by
  refine ⟨ha, hs, fun p hp => ⟨[], ⟨Roll.find?_of_mem hp, fun a => ?_, fun a hw => ?_,
    nodup_ids_wants _ _, rfl, fun hn => absurd rfl hn, fun n hn => by cases hn⟩, rfl⟩⟩
  · show a ∈ (s₀.game.view p.id).assets.toList ↔ a ∈ wants s₀.game p.id
    rw [mem_wants, Game.view, Roll.mem_filter, decide_eq_true_eq]
  · exact hi a (mem_wants.mp hw).1

theorem Kept.turn (hk : Kept s₀ h) (q : PlayerId) : Kept s₀ (h.turn q) := by
  have hgame : (h.turn q).season = h.season ∨
      ∃ a n, (h.turn q).season = { h.season with game := h.season.game.serve ⟨a, q, n⟩ } := by
    rcases (h.errands q).step_season h.season q with hs | ⟨a, n, hs⟩
    · exact Or.inl hs
    · exact Or.inr ⟨a, n, hs.trans (changeAtDesk_season hk.accepting a q n)⟩
  have haccepting : (h.turn q).season.accepting = true := by
    rcases hgame with hs | ⟨a, n, hs⟩ <;> rw [hs] <;> exact hk.accepting
  have hspending : Spending (h.turn q).season := by
    rcases hgame with hs | ⟨a, n, hs⟩ <;> rw [hs]
    · exact hk.spending
    · exact ⟨Game.after_spendable (a := .change a q n) trivial hk.spending.spendable,
        hk.spending.writes⟩
  refine ⟨haccepting, hspending, fun p hp => ?_⟩
  obtain ⟨done, hunderway, hdone⟩ := hk.underway p hp
  by_cases hq : p.id = q
  · subst hq
    obtain ⟨done', hunderway', hdone'⟩ := hunderway.step hk.accepting hk.spending.spendable
    rw [errands_turn_self]
    exact ⟨done', hunderway', hdone'.trans hdone⟩
  · -- the player sees nothing of what others are granted
    have hview : (h.turn q).season.game.view p.id = h.season.game.view p.id := by
      rcases hgame with hs | ⟨a, n, hs⟩ <;> rw [hs]
      exact Game.serve_view_other fun e => hq e.symm
    rw [errands_turn_other _ hq, hview]
    exact ⟨done, hunderway, hdone⟩

theorem Kept.turns (hk : Kept s₀ h) (order : List PlayerId) : Kept s₀ (h.turns order) := by
  induction order generalizing h with
  | nil => exact hk
  | cons q order ih => exact ih (hk.turn q)

structure Spent (s₀ : Season) (h : Hall) (p : Player) : Prop where
  assets : (h.season.game.assetsOf p.id).Perm ((courses p.water (wants s₀.game p.id)).map served)
  player : h.season.game.players.find? p.id =
    some { p with water := leftOver p.water (wants s₀.game p.id) }
  accepted : (h.errands p.id).tally.accepted.toNat =
    min ((courses p.water (wants s₀.game p.id)).countP fun x => !unserved x) 4294967295
  rejected : (h.errands p.id).tally.rejected.toNat =
    min ((courses p.water (wants s₀.game p.id)).countP unserved) 4294967295
  counted : (s₀.game.assetsOf p.id).length ≤ 4294967295 →
    (h.errands p.id).tally.accepted.toNat + (h.errands p.id).tally.rejected.toNat =
      (s₀.game.assetsOf p.id).length

theorem Kept.spent (hk : Kept s₀ h) (hs : h.Settled) {p : Player}
    (hp : p ∈ s₀.game.players.toList) : Spent s₀ h p := by
  obtain ⟨done, hunderway, hdone⟩ := hk.underway p hp
  rw [hs p.id, List.append_nil] at hdone
  subst hdone
  have hassets := hunderway.assets
  rw [hs p.id, List.append_nil] at hassets
  have hids : ((courses p.water (wants s₀.game p.id)).map served).map (·.id) =
      (wants s₀.game p.id).map (·.id) := by
    rw [List.map_map, ← fst_courses p.water (wants s₀.game p.id), List.map_map, fst_courses]
    rfl
  have hall : (wants s₀.game p.id).length = (s₀.game.assetsOf p.id).length :=
    (wants_perm s₀.game p.id).length_eq
  have hcourses := (courses p.water (wants s₀.game p.id)).length_eq_countP_add_countP unserved
  rw [← List.length_map (f := (·.1)), fst_courses, hall] at hcourses
  have haccepted : (h.errands p.id).tally.accepted.toNat = _ :=
    (congrArg (fun t => t.accepted.toNat) hunderway.tally).trans (toNat_saturated _)
  have hrejected : (h.errands p.id).tally.rejected.toNat = _ :=
    (congrArg (fun t => t.rejected.toNat) hunderway.tally).trans (toNat_saturated _)
  refine ⟨?_, hunderway.player, haccepted, hrejected, fun hfew => ?_⟩
  · refine (List.perm_ext_iff_of_nodup ?_ ?_).mpr fun a => (hassets a)
    · exact (h.season.game.assets.nodup_keys.sublist (List.filter_sublist.map _)).of_map _
    · exact (hids ▸ nodup_ids_wants s₀.game p.id).of_map _
  · rw [haccepted, hrejected]
    simp only [Bool.not_eq_true, Bool.decide_eq_false] at hcourses
    omega

end Hall
end Watershed
