import Watershed.Proofs.Season.Steps

namespace Watershed

namespace Season

inductive Call
  | startBuild
  | startAllocation
  | startRevenue
  | change (asset : AssetId) (player : PlayerId) (n : Count)
  | changeAtDesk (asset : AssetId) (player : PlayerId) (n : Count)
  | requestAtDesk (asset : AssetId) (player : PlayerId) (n : Int)
  | deal (d : Dealing)

def after (s : Season) : Call → Season
  | .startBuild => s.startBuild.season
  | .startAllocation => s.startAllocation.season
  | .startRevenue => s.startRevenue.season
  | .change asset player n => (s.change asset player n).season
  | .changeAtDesk asset player n => (s.changeAtDesk asset player n).season
  | .requestAtDesk asset player n => (s.requestAtDesk asset player n).season
  | .deal d => { s with game := s.game.after (.deal d) }

def Step (admits : Season → Call → Prop) (s s' : Season) : Prop := ∃ c, admits s c ∧ s' = s.after c

abbrev Run (admits : Season → Call → Prop) : Season → Season → Prop :=
  Relation.ReflTransGen (Step admits)

theorem Run.invariant {admits : Season → Call → Prop} {P : Season → Prop}
    (hstep : ∀ s c, admits s c → P s → P (s.after c)) {s s' : Season} (h : Run admits s s')
    (hs : P s) : P s' := by
  induction h with
  | refl => exact hs
  | tail _ hr ih =>
    obtain ⟨c, hc, rfl⟩ := hr
    exact hstep _ c hc ih

def afterAll (s : Season) (calls : List Call) : Season := calls.foldl after s

def Admitted (admits : Season → Call → Prop) (s : Season) : List Call → Prop
  | [] => True
  | c :: calls => admits s c ∧ Admitted admits (s.after c) calls

theorem Run.afterAll {admits : Season → Call → Prop} {s : Season} {calls : List Call}
    (h : Admitted admits s calls) : Run admits s (s.afterAll calls) := by
  induction calls generalizing s with
  | nil => exact .refl
  | cons c calls ih => exact .head ⟨c, h.1, rfl⟩ (ih h.2)

inductive Moved (s : Season) : Call → Season → Prop
  | refused (c : Call) : Moved s c s
  | rained (rainfall : Rainfall) :
    Moved s .startAllocation { s with strategies := { s.strategies with rainfall := rainfall } }
  | build (clock : Clock) (m : Move Reset) (he : s.enter .build = .ok clock)
    (hm : (s.game.setRound clock.round).reset = .ok m) :
    Moved s .startBuild
      { s with clock := clock, game := m.game, opening := s.game.held, downpour := ⟨0, 0, 0⟩ }
  | allocation (rainfall : Rainfall) (water : Count) (clock : Clock) (m : Move Downpour)
    (he : s.enter .allocation = .ok clock)
    (hm : s.game.distribute s.strategies.distributor water = .ok m) :
    Moved s .startAllocation
      { s with
        clock := clock
        game := m.game
        strategies := { s.strategies with rainfall := rainfall }
        accepting := true
        multipliers := s.strategies.economy.multipliers s.game.round
        downpour := m.result }
  | revenue (clock : Clock) (r : Revenue) (g : Game) (he : s.enter .revenue = .ok clock)
    (ha : s.audit clock.round = .ok ()) (hg : payAll s.game r = .ok g) :
    Moved s .startRevenue { s with clock := clock, game := g, accepting := false }
  | change (c : Call) (asset : AssetId) (player : PlayerId) (n : Count) (m : Move Change)
    (ho : s.accepting = true) (hm : s.game.changeAllocation asset player n = .ok m) :
    Moved s c { s with game := m.game }
  | deal (d : Dealing) (g : Game) (hg : s.game.deal? d = some g) :
    Moved s (.deal d) { s with game := g }

theorem attempt_of {α : Type} {P : Season → Prop} {s : Season}
    {r : Except SeasonFault (Season × List Notice × α)} (hs : P s)
    (h : ∀ s' notices a, r = .ok (s', notices, a) → P s') : P (s.attempt r).season := by
  unfold attempt
  split
  · exact h _ _ _ rfl
  · exact hs

theorem changeAtDesk_moved (s : Season) (c : Call) (asset : AssetId) (player : PlayerId)
    (n : Count) : Moved s c (s.changeAtDesk asset player n).season := by
  refine attempt_of (.refused c) fun s' notices a h => ?_
  split at h
  · rename_i ho
    obtain ⟨m, hm, h⟩ := bind_eq_ok.mp h
    cases h
    exact .change c asset player n m ho (mapError_eq_ok.mp hm)
  · cases h

theorem after_moved (s : Season) (c : Call) : Moved s c (s.after c) := by
  cases c with
  | startBuild =>
    show Moved s _ s.startBuild.season
    rw [startBuild_eq]
    refine attempt_of (.refused _) fun s' notices a h => ?_
    obtain ⟨clock, he, h⟩ := bind_eq_ok.mp h
    obtain ⟨m, hm, h⟩ := bind_eq_ok.mp h
    cases h
    exact .build clock m he (mapError_eq_ok.mp hm)
  | startAllocation =>
    show Moved s _ s.startAllocation.season
    rw [startAllocation_eq]
    split
    · exact .refused _
    · rename_i water rainfall _
      -- the rain is drawn first, so that it has moved on even where it is not distributed
      refine attempt_of (.rained rainfall) fun s' notices a h => ?_
      obtain ⟨clock, he, h⟩ := bind_eq_ok.mp h
      obtain ⟨m, hm, h⟩ := bind_eq_ok.mp h
      cases h
      exact .allocation rainfall water clock m he (mapError_eq_ok.mp hm)
  | startRevenue =>
    show Moved s _ s.startRevenue.season
    rw [startRevenue_eq]
    refine attempt_of (.refused _) fun s' notices a h => ?_
    obtain ⟨clock, r, g, he, ha, hg, rfl, _, _⟩ := tryRevenue_eq_ok h
    exact .revenue clock r g he ha hg
  | change asset player n =>
    show Moved s _ (s.change asset player n).season
    unfold Season.change
    split
    · exact .refused _
    · exact changeAtDesk_moved s _ asset player n
  | changeAtDesk asset player n => exact changeAtDesk_moved s _ asset player n
  | requestAtDesk asset player n =>
    show Moved s _ (s.requestAtDesk asset player n).season
    unfold requestAtDesk
    split
    · exact .refused _
    · exact changeAtDesk_moved s _ asset player _
  | deal d =>
    refine Game.after_of (P := fun g => Moved s (.deal d) { s with game := g }) (.refused _) ?_
    exact fun g' hg => .deal d g' hg

theorem enter_eq_ok {s : Season} {phase : Phase} {clock : Clock} (h : s.enter phase = .ok clock) :
    s.clock.next = .ok (clock.round, phase) ∧ clock.phase = phase := by
  unfold enter at h
  split at h
  · cases h
  rename_i round hn
  have hnext := Clock.nextInto_eq_ok.mp hn
  obtain ⟨⟨r, p⟩, hnext', h⟩ := bind_eq_ok.mp (mapError_eq_ok.mp h)
  cases h
  rw [hnext] at hnext'
  cases hnext'
  exact ⟨hnext, rfl⟩

theorem next_eq_ok {c : Clock} {round : Count} {phase : Phase} (h : c.next = .ok (round, phase)) :
    (c.phase = .revenue ∧ phase = .build ∧ c.round.val + 1 = round.val) ∨
      (c.phase ≠ .revenue ∧ phase = c.phase.next ∧ round = c.round) := by
  unfold Clock.next at h
  split at h
  · cases h
  split at h
  · rename_i hp
    split at h
    · rename_i r hr
      cases h
      exact Or.inl ⟨hp, rfl, Count.add?_eq_some.mp hr⟩
    · cases h
  · rename_i hp
    cases h
    exact Or.inr ⟨hp, rfl, rfl⟩

theorem enter_build {s : Season} {clock : Clock} (h : s.enter .build = .ok clock) :
    s.clock.phase = .revenue ∧ clock.phase = .build ∧ s.clock.round.val + 1 = clock.round.val := by
  obtain ⟨hn, hp⟩ := enter_eq_ok h
  rcases next_eq_ok hn with ⟨hr, _, hround⟩ | ⟨hr, hnext, _⟩
  · exact ⟨hr, hp, hround⟩
  · exact absurd (Phase.next_inj (q := .revenue) hnext.symm) hr

theorem enter_allocation {s : Season} {clock : Clock} (h : s.enter .allocation = .ok clock) :
    s.clock.phase = .build ∧ clock.phase = .allocation ∧ clock.round = s.clock.round := by
  obtain ⟨hn, hp⟩ := enter_eq_ok h
  rcases next_eq_ok hn with ⟨_, hb, _⟩ | ⟨_, hnext, hround⟩
  · cases hb
  · exact ⟨Phase.next_inj (q := .build) hnext.symm, hp, hround⟩

theorem enter_revenue {s : Season} {clock : Clock} (h : s.enter .revenue = .ok clock) :
    s.clock.phase = .allocation ∧ clock.phase = .revenue ∧ clock.round = s.clock.round := by
  obtain ⟨hn, hp⟩ := enter_eq_ok h
  rcases next_eq_ok hn with ⟨_, hb, _⟩ | ⟨_, hnext, hround⟩
  · cases hb
  · exact ⟨Phase.next_inj (q := .allocation) hnext.symm, hp, hround⟩

end Season
end Watershed
