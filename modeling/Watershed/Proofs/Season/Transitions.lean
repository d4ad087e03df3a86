import Watershed.Proofs.Season.Call

namespace Watershed.Season

section

variable {α : Type} {s : Season} {r : Except SeasonFault (Season × List Notice × α)}

theorem attempt_eq_ok {a : α} (h : (s.attempt r).answer = .ok a) :
    ∃ notices, r = .ok ((s.attempt r).season, notices, a) := by
  cases r with
  | error e => cases h
  | ok x =>
    obtain ⟨s', notices, a'⟩ := x
    cases h
    exact ⟨notices, rfl⟩

theorem attempt_eq_error {e : SeasonFault} (h : (s.attempt r).answer = .error e) :
    r = .error e ∧ (s.attempt r).season = s := by
  cases r with
  | error e' =>
    cases h
    exact ⟨rfl, rfl⟩
  | ok x => cases h

end

variable {s : Season} {e : SeasonFault}

theorem exists_enter {phase : Phase} (hnext : s.clock.phase.next = phase) (hf : ¬ s.Finished) :
    ∃ clock, s.enter phase = .ok clock := by
  obtain ⟨round, hround, _⟩ := Clock.next_of_running (show ¬ s.clock.Finished from hf)
  rw [hnext] at hround
  refine ⟨{ s.clock with round := round, phase := phase }, ?_⟩
  rw [enter, Clock.nextInto_eq_ok.mpr hround, Clock.advance, hround]
  rfl

theorem running_of_phase (h : s.clock.phase ≠ .revenue) : ¬ s.Finished := fun hf => h hf.2

theorem enter_of_startBuild {reset : Reset} (h : s.startBuild.answer = .ok reset) :
    s.enter .build = .ok s.startBuild.season.clock := by
  rw [startBuild_eq] at h ⊢
  obtain ⟨_, h⟩ := attempt_eq_ok h
  obtain ⟨clock, he, h⟩ := bind_eq_ok.mp h
  obtain ⟨m, _, h⟩ := bind_eq_ok.mp h
  rw [he]
  exact congrArg (fun x => Except.ok x.1.clock) (Except.ok.inj h)

theorem exists_startBuild (hphase : s.clock.phase = .revenue) (hf : ¬ s.Finished) :
    ∃ reset, s.startBuild.answer = .ok reset := by
  obtain ⟨clock, he⟩ := exists_enter (show s.clock.phase.next = .build by rw [hphase]; rfl) hf
  cases h : s.startBuild.answer with
  | ok reset => exact ⟨reset, rfl⟩
  | error e =>
    rw [startBuild_eq] at h
    obtain ⟨h, _⟩ := attempt_eq_error h
    rw [tryBuild, he] at h
    rcases bind_eq_error.mp h with h | ⟨_, _, h⟩
    · cases h
    rcases bind_eq_error.mp h with h | ⟨_, _, h⟩
    · obtain ⟨_, h, _⟩ := mapError_eq_error.mp h
      exact absurd h Game.reset_ne_error
    · cases h

theorem startAllocation_eq_ok {downpour : Downpour} (h : s.startAllocation.answer = .ok downpour) :
    ∃ rainfall water clock m, s.enter .allocation = .ok clock ∧
      s.game.distribute s.strategies.distributor water = .ok m ∧
      s.startAllocation.season =
        { s with
          clock := clock
          game := m.game
          strategies := { s.strategies with rainfall := rainfall }
          accepting := true
          multipliers := s.strategies.economy.multipliers s.game.round
          downpour := m.result } := by
  rw [startAllocation_eq] at h ⊢
  cases hr : s.tryRain with
  | error e =>
    rw [hr] at h
    cases h
  | ok x =>
    obtain ⟨water, rainfall⟩ := x
    rw [hr] at h
    dsimp only at h ⊢
    obtain ⟨_, h⟩ := attempt_eq_ok h
    obtain ⟨clock, he, h⟩ := bind_eq_ok.mp h
    obtain ⟨m, hm, h⟩ := bind_eq_ok.mp h
    exact ⟨rainfall, water, clock, m, he, mapError_eq_ok.mp hm,
      (congrArg Prod.fst (Except.ok.inj h)).symm⟩

theorem enter_of_startAllocation {downpour : Downpour}
    (h : s.startAllocation.answer = .ok downpour) :
    s.enter .allocation = .ok s.startAllocation.season.clock := by
  obtain ⟨_, _, clock, _, he, _, hs⟩ := startAllocation_eq_ok h
  rw [hs]
  exact he

theorem startAllocation_error (h : s.startAllocation.answer = .error e) :
    ∃ rainfall, s.startAllocation.season = s.withRainfall rainfall := by
  rw [startAllocation_eq] at h ⊢
  cases hr : s.tryRain with
  | error e' => exact ⟨s.strategies.rainfall, rfl⟩
  | ok x =>
    rw [hr] at h
    exact ⟨x.2, (attempt_eq_error h).2⟩

theorem startAllocation_eq_error (hphase : s.clock.phase = .build)
    (h : s.startAllocation.answer = .error e) :
    (∃ f, s.strategies.rainfall.generate s.game.round s.game.toBoard = .error f ∧
      e = .rainfall f ∧ s.startAllocation.season = s) ∨
    ∃ water f, s.game.distribute s.strategies.distributor water = .error f := by
  have hrunning : ¬ s.Finished := running_of_phase (by rw [hphase]; simp)
  obtain ⟨clock, he⟩ :=
    exists_enter (show s.clock.phase.next = .allocation by rw [hphase]; rfl) hrunning
  rw [startAllocation_eq] at h ⊢
  cases hr : s.tryRain with
  | error e' =>
    rw [hr] at h
    cases h
    rcases bind_eq_error.mp hr with hr | ⟨_, _, hr⟩
    · rw [he] at hr
      cases hr
    · obtain ⟨f, hf, rfl⟩ := mapError_eq_error.mp hr
      exact Or.inl ⟨f, hf, rfl, rfl⟩
  | ok x =>
    obtain ⟨water, rainfall⟩ := x
    rw [hr] at h
    obtain ⟨h, _⟩ := attempt_eq_error h
    rcases bind_eq_error.mp h with h | ⟨_, _, h⟩
    · rw [enter_withRainfall, he] at h
      cases h
    rcases bind_eq_error.mp h with h | ⟨_, _, h⟩
    · obtain ⟨f, hf, _⟩ := mapError_eq_error.mp h
      exact Or.inr ⟨water, f, hf⟩
    · cases h

theorem startRevenue_eq_ok {x : Summary} (h : s.startRevenue.answer = .ok x) :
    ∃ clock revenue game, s.enter .revenue = .ok clock ∧
      Revenue.byPlayer s.multipliers s.game.assets.toList = .ok revenue ∧
      payAll s.game revenue = .ok game ∧
      s.startRevenue.season = { s with clock := clock, game := game, accepting := false } ∧
      x = s.summarize clock.round revenue := by
  rw [startRevenue_eq] at h ⊢
  obtain ⟨_, h⟩ := attempt_eq_ok h
  obtain ⟨clock, he, h⟩ := bind_eq_ok.mp h
  obtain ⟨_, _, h⟩ := bind_eq_ok.mp h
  obtain ⟨revenue, hrevenue, h⟩ := bind_eq_ok.mp h
  obtain ⟨game, hg, h⟩ := bind_eq_ok.mp h
  have hx := Except.ok.inj h
  exact ⟨clock, revenue, game, he, mapError_eq_ok.mp hrevenue, mapError_eq_ok.mp hg,
    (congrArg Prod.fst hx).symm, (congrArg (fun y => y.2.2) hx).symm⟩

theorem startRevenue_error (h : s.startRevenue.answer = .error e) : s.startRevenue.season = s := by
  rw [startRevenue_eq] at h ⊢
  exact (attempt_eq_error h).2

theorem startRevenue_eq_error (h : s.startRevenue.answer = .error e) :
    s.enter .revenue = .error e ∨ ∃ clock, s.enter .revenue = .ok clock ∧
      (s.audit clock.round = .error e ∨
        (∃ f, Revenue.byPlayer s.multipliers s.game.assets.toList = .error f ∧ e = .economy f) ∨
        ∃ revenue f, Revenue.byPlayer s.multipliers s.game.assets.toList = .ok revenue ∧
          payAll s.game revenue = .error f ∧ e = .game f) := by
  rw [startRevenue_eq] at h
  rcases bind_eq_error.mp (attempt_eq_error h).1 with h | ⟨clock, he, h⟩
  · exact Or.inl h
  refine Or.inr ⟨clock, he, ?_⟩
  rcases bind_eq_error.mp h with h | ⟨_, _, h⟩
  · exact Or.inl h
  rcases bind_eq_error.mp h with h | ⟨revenue, hrevenue, h⟩
  · obtain ⟨f, hf, rfl⟩ := mapError_eq_error.mp h
    exact Or.inr (Or.inl ⟨f, hf, rfl⟩)
  rcases bind_eq_error.mp h with h | ⟨_, _, h⟩
  · obtain ⟨f, hf, rfl⟩ := mapError_eq_error.mp h
    exact Or.inr (Or.inr ⟨revenue, f, mapError_eq_ok.mp hrevenue, hf, rfl⟩)
  · cases h

end Watershed.Season
