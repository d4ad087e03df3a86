import Watershed.Proofs.Clock
import Watershed.Proofs.Game.Steps
import Watershed.Proofs.Rainfall
import Watershed.Season.Steps

namespace Watershed.Season

theorem run_checkClock (phase : Phase) (t : Stage) :
    (checkClock phase).run t = match t.season.enter phase with
      | .ok clock => .ok clock.round t
      | .error e => .error e t := by
  simp only [checkClock, look, EStateM.run_bind, EStateM.run_get, EStateM.run_pure, run_ofExcept,
    enter]
  cases hn : t.season.clock.nextInto phase with
  | error e => rfl
  | ok round =>
    simp only [Clock.advance, Clock.nextInto_eq_ok.mp hn]
    rfl

theorem enter_advance {s : Season} {phase : Phase} {clock : Clock} (h : s.enter phase = .ok clock) :
    s.clock.advance = .ok clock := by
  unfold enter at h
  split at h
  · cases h
  · exact mapError_eq_ok.mp h

theorem run_advanceClock (t : Stage) :
    advanceClock.run t = match t.season.clock.advance with
      | .ok clock => .ok () { t with season := { t.season with clock := clock } }
      | .error e => .error (.clock e) t := by
  simp only [advanceClock, look, write, EStateM.run_bind, EStateM.run_get, EStateM.run_pure,
    EStateM.run_modify, run_ofExcept]
  cases t.season.clock.advance <;> rfl

theorem run_onScene {ε α : Type} (fault : ε → SeasonFault) (x : EStateM ε Scene α) (t : Stage) :
    (onScene fault x).run t = match x.run t.scene with
      | .ok a s => .ok a (t.withScene s)
      | .error e s => .error (fault e) (t.withScene s) := rfl

theorem run_onRainfall {α : Type} (x : EStateM RainfallFault Rainfall α) (t : Stage) :
    (onRainfall x).run t = match x.run t.season.strategies.rainfall with
      | .ok a r => .ok a { t with season := t.season.withRainfall r }
      | .error e r => .error (.rainfall e) { t with season := t.season.withRainfall r } := rfl

theorem enter_withRainfall (s : Season) (r : Rainfall) (phase : Phase) :
    (s.withRainfall r).enter phase = s.enter phase := rfl

theorem run_resetInRound (round : Count) (s : Scene) :
    (resetInRound round).run s = match (s.game.setRound round).reset with
      | .ok m => .ok (s.game.held, m.result) ⟨m.game, s.notices ++ m.notices⟩
      | .error e => .error e s := by
  simp only [resetInRound, Scene.look, Scene.write, EStateM.run_bind, EStateM.run_get,
    EStateM.run_pure, EStateM.run_modify, run_tryCatch, Game.run_resetSteps]
  cases (s.game.setRound round).reset <;> rfl

theorem run_buildSteps (t : Stage) :
    buildSteps.run t = match t.season.tryBuild with
      | .ok (s, notices, reset) => .ok reset ⟨s, t.notices ++ notices, t.closings⟩
      | .error e => .error e t := by
  simp only [buildSteps, EStateM.run_bind, run_checkClock, run_onScene, run_resetInRound]
  simp only [tryBuild, bind, Except.bind]
  cases he : t.season.enter .build with
  | error e => rfl
  | ok clock =>
    simp only [Stage.scene]
    cases hm : (t.season.game.setRound clock.round).reset with
    | error e => rfl
    | ok m =>
      simp only [Except.mapError, Stage.withScene, run_advanceClock, enter_advance he, write,
        EStateM.run_modify, EStateM.run_pure]

theorem run_allocationSteps (t : Stage) :
    allocationSteps.run t = match t.season.tryRain with
      | .error e => .error e t
      | .ok (water, rainfall) =>
        match (t.season.withRainfall rainfall).tryDistribute water with
        | .ok (s, notices, downpour) => .ok downpour ⟨s, t.notices ++ notices, t.closings⟩
        | .error e => .error e { t with season := t.season.withRainfall rainfall } := by
  simp only [allocationSteps, look, EStateM.run_bind, EStateM.run_get, EStateM.run_pure,
    run_checkClock, run_onRainfall, run_onScene, Rainfall.run_rain, Game.run_distributeSteps]
  simp only [tryRain, tryDistribute, enter_withRainfall, bind, Except.bind]
  cases he : t.season.enter .allocation with
  | error e => rfl
  | ok clock =>
    simp only [Except.mapError]
    cases t.season.strategies.rainfall.generate t.season.game.round t.season.game.toBoard with
    | error e => rfl
    | ok x =>
      obtain ⟨water, rainfall⟩ := x
      simp only [Stage.scene, withRainfall]
      cases t.season.game.distribute t.season.strategies.distributor water with
      | error e => rfl
      | ok m =>
        simp only [Scene.moved, Stage.withScene, write, EStateM.run_modify, run_advanceClock,
          enter_advance he]

theorem run_checkClosing (t : Stage) :
    checkClosing.run t = match t.season.tryRevenue with
      | .ok (_, _, summary) => .ok (summary.round, summary.revenue) t
      | .error e => .error e t := by
  simp only [checkClosing, look, EStateM.run_bind, EStateM.run_get, EStateM.run_pure,
    run_checkClock, run_ofExcept, Game.checkPayments_eq (Roll.nodup_keys _)]
  simp only [tryRevenue, payAll, bind, Except.bind]
  cases t.season.enter .revenue with
  | error e => rfl
  | ok clock =>
    dsimp only
    cases t.season.audit clock.round with
    | error e => rfl
    | ok _ =>
      cases Revenue.byPlayer t.season.multipliers t.season.game.assets.toList with
      | error e => rfl
      | ok revenue =>
        simp only [Except.mapError, Except.map]
        cases revenue.toList.foldlM (fun (g : Game) x => g.credit x.1 x.2) t.season.game <;> rfl

theorem tryRevenue_eq_ok {s s' : Season} {notices : List Notice} {summary : Summary}
    (h : s.tryRevenue = .ok (s', notices, summary)) :
    ∃ clock revenue game, s.enter .revenue = .ok clock ∧ s.audit clock.round = .ok () ∧
      payAll s.game revenue = .ok game ∧
      s' = { s with clock := clock, game := game, accepting := false } ∧ notices = [] ∧
      summary = s.summarize clock.round revenue := by
  obtain ⟨clock, he, h⟩ := bind_eq_ok.mp h
  obtain ⟨_, ha, h⟩ := bind_eq_ok.mp h
  obtain ⟨revenue, _, h⟩ := bind_eq_ok.mp h
  obtain ⟨game, hg, h⟩ := bind_eq_ok.mp h
  cases h
  exact ⟨clock, revenue, game, he, ha, mapError_eq_ok.mp hg, rfl, rfl, rfl⟩

theorem run_closeRound {t : Stage} {s : Season} {notices : List Notice} {summary : Summary}
    (h : t.season.tryRevenue = .ok (s, notices, summary)) :
    (closeRound summary.round summary.revenue).run t =
      .ok summary ⟨s, t.notices ++ notices, t.closings ++ [(summary, s.game)]⟩ := by
  obtain ⟨clock, revenue, game, he, _, hg, rfl, rfl, rfl⟩ := tryRevenue_eq_ok h
  have hpaid : (revenue.toList.forM Game.creditStep).run
      ⟨t.season.game, t.notices⟩ = .ok () ⟨game, t.notices⟩ := Game.run_creditSteps hg
  obtain ⟨players, rfl⟩ := Game.credits_eq_ok hg
  simp only [closeRound, look, write, EStateM.run_bind, EStateM.run_get, EStateM.run_pure,
    EStateM.run_modify, run_onScene, Stage.scene, summarize]
  simp only [hpaid, Stage.withScene, run_advanceClock, enter_advance he, List.append_nil]
  rfl

theorem run_revenueSteps (t : Stage) :
    revenueSteps.run t = match t.season.tryRevenue with
      | .ok (s, notices, summary) =>
        .ok summary ⟨s, t.notices ++ notices, t.closings ++ [(summary, s.game)]⟩
      | .error e => .error e t := by
  rw [revenueSteps, EStateM.run_bind, run_checkClosing]
  cases h : t.season.tryRevenue with
  | error e => rfl
  | ok x => exact run_closeRound h

theorem startBuild_eq (s : Season) : s.startBuild = s.attempt s.tryBuild := by
  rw [startBuild, perform, run_buildSteps]
  unfold attempt
  cases s.tryBuild <;> rfl

theorem startAllocation_eq (s : Season) :
    s.startAllocation = match s.tryRain with
      | .error e => ⟨s, [], [], .error e⟩
      | .ok (water, rainfall) =>
        (s.withRainfall rainfall).attempt ((s.withRainfall rainfall).tryDistribute water) := by
  rw [startAllocation, perform, run_allocationSteps]
  unfold attempt
  cases s.tryRain with
  | error e => rfl
  | ok x =>
    dsimp only
    cases (s.withRainfall x.2).tryDistribute x.1 <;> rfl

theorem startRevenue_eq (s : Season) :
    s.startRevenue = { s.attempt s.tryRevenue with
      closings := match s.tryRevenue with
        | .ok (closed, _, summary) => [(summary, closed.game)]
        | .error _ => [] } := by
  rw [startRevenue, perform, run_revenueSteps]
  unfold attempt
  cases s.tryRevenue <;> rfl

theorem startBuild_closings (s : Season) : s.startBuild.closings = [] := by
  rw [startBuild_eq]
  unfold attempt
  cases s.tryBuild <;> rfl

theorem startAllocation_closings (s : Season) : s.startAllocation.closings = [] := by
  rw [startAllocation_eq]
  cases s.tryRain with
  | error e => rfl
  | ok x =>
    unfold attempt
    dsimp only
    cases (s.withRainfall x.2).tryDistribute x.1 <;> rfl

theorem startRevenue_closings (s : Season) :
    s.startRevenue.closings = match s.startRevenue.answer with
      | .ok summary => [(summary, s.startRevenue.season.game)]
      | .error _ => [] := by
  rw [startRevenue_eq]
  unfold attempt
  cases s.tryRevenue <;> rfl

end Watershed.Season
