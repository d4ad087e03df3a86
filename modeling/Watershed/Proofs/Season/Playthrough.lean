import Watershed.Proofs.Season.Greedy
import Watershed.Proofs.Season.Ready

namespace Watershed.Season

theorem Call.AtDesk.played {s : Season} {c : Call} (h : c.AtDesk s) : c.Played s := by
  obtain ⟨asset, player, n, rfl⟩ := h
  trivial

theorem played_of_atDesk {s s' : Season} (h : Run Call.AtDesk s s') : Run Call.Played s s' :=
  Relation.ReflTransGen.mono (fun _ _ ⟨c, hc, hs⟩ => ⟨c, hc.played, hs⟩) _ _ h

theorem Moved.clock_of_atDesk {s s' : Season} {asset : AssetId} {player : PlayerId} {n : Count}
    (h : Moved s (.changeAtDesk asset player n) s') : s'.clock = s.clock := by
  cases h <;> rfl

theorem clock_of_atDesk {s s' : Season} (h : Run Call.AtDesk s s') : s'.clock = s.clock := by
  refine h.invariant (P := fun t => t.clock = s.clock) (fun t c hc ht => ?_) rfl
  obtain ⟨asset, player, n, rfl⟩ := hc
  exact (after_moved t _).clock_of_atDesk.trans ht

theorem submitIn_run (order : List PlayerId) (s : Season) :
    Run Call.AtDesk s (s.submitIn order).1 :=
  (s.hall.turns_run order).trans ((s.hall.turns order).turns_run _)

section

variable {submission : Submission} (hsub : ∀ s, Run Call.AtDesk s (submission s).1)
include hsub

theorem playRound_run (s : Season) : Run Call.Played s (s.playRound submission).season := by
  have hbuild : Run Call.Played s s.startBuild.season := .single ⟨.startBuild, trivial, rfl⟩
  have hallocation : Run Call.Played s s.startBuild.season.startAllocation.season :=
    hbuild.tail ⟨.startAllocation, trivial, rfl⟩
  have hasked := hallocation.trans (played_of_atDesk (hsub _))
  have hrevenue := hasked.tail ⟨.startRevenue, trivial, rfl⟩
  unfold playRound
  dsimp only
  split
  · exact hbuild
  split
  · exact hallocation
  split
  · exact hallocation
  split <;> exact hrevenue

variable {rounds : Count} {s : Season}

structure Completed (s : Season) (r : Played) (report : RoundReport) : Prop where
  answer : r.answer = .ok report
  closings : r.closings = [(report.summary, report.closing)]
  round : report.summary.round = r.season.clock.round
  phase : r.season.clock.phase = .revenue
  next : r.season.clock.round.val = s.clock.round.val + 1

structure Interrupted (r : Played) (e : SeasonFault) : Prop where
  answer : r.answer = .error e
  closings : r.closings = []
  stopped : Stopped r.season e

omit hsub

section

variable {e : SeasonFault} {reset : Reset} {downpour : Downpour} {asked : Season}
  {tallies : List (PlayerId × Tally)} (hbuild : s.startBuild.answer = .ok reset)
include hbuild

theorem playRound_rain (h : s.startBuild.season.startAllocation.answer = .error e) :
    s.playRound submission = ⟨s.startBuild.season.startAllocation.season, [], .error e⟩ := by
  simp only [playRound, hbuild, h, startBuild_closings, startAllocation_closings, List.append_nil]

variable (hallocation : s.startBuild.season.startAllocation.answer = .ok downpour)
  (hopen : s.startBuild.season.startAllocation.season.desk = .ok ())
  (hsubmitted : submission s.startBuild.season.startAllocation.season = (asked, tallies))
include hallocation hopen hsubmitted

theorem playRound_unpaid (h : asked.startRevenue.answer = .error e) :
    s.playRound submission = ⟨asked.startRevenue.season, [], .error e⟩ := by
  simp only [playRound, hbuild, hallocation, hopen, hsubmitted, h, startBuild_closings,
    startAllocation_closings, startRevenue_closings, List.append_nil]

theorem playRound_paid {summary : Summary} (h : asked.startRevenue.answer = .ok summary) :
    s.playRound submission =
      ⟨asked.startRevenue.season, [(summary, asked.startRevenue.season.game)],
        .ok ⟨reset, downpour, tallies, summary, asked.startRevenue.season.game⟩⟩ := by
  simp only [playRound, hbuild, hallocation, hopen, hsubmitted, h, startBuild_closings,
    startAllocation_closings, startRevenue_closings, List.append_nil, List.nil_append]

end

include hsub

theorem Ready.playRound (hs : Ready rounds s) (hphase : s.clock.phase = .revenue)
    (hf : ¬ s.Finished) (hsmall : (s.playRound submission).season.game.Small) :
    (∃ report, Completed s (s.playRound submission) report) ∨
      ∃ e, Interrupted (s.playRound submission) e := by
  obtain ⟨reset, hbuild⟩ := exists_startBuild hphase hf
  obtain ⟨_, hbuilding, hround⟩ := enter_build (enter_of_startBuild hbuild)
  have hs₁ : Ready rounds s.startBuild.season := hs.after (c := .startBuild) trivial
  cases hallocation : s.startBuild.season.startAllocation.answer with
  | error e =>
    rw [playRound_rain hbuild hallocation]
    exact Or.inr ⟨e, rfl, rfl, hs₁.stopped_allocation hbuilding hallocation⟩
  | ok downpour =>
    obtain ⟨_, hallocating, hround'⟩ := enter_allocation (enter_of_startAllocation hallocation)
    have hopen : s.startBuild.season.startAllocation.season.desk = .ok () := if_pos hallocating
    have hasked := hsub s.startBuild.season.startAllocation.season
    have hclock := clock_of_atDesk hasked
    have hs₂ := (hs₁.after (c := .startAllocation) trivial).run (played_of_atDesk hasked)
    have hphase₂ := (congrArg Clock.phase hclock).trans hallocating
    obtain ⟨asked, tallies, hsubmitted⟩ : ∃ asked tallies,
        submission s.startBuild.season.startAllocation.season = (asked, tallies) := ⟨_, _, rfl⟩
    rw [hsubmitted] at hclock hs₂ hphase₂
    cases hrevenue : asked.startRevenue.answer with
    | error e =>
      rw [playRound_unpaid hbuild hallocation hopen hsubmitted hrevenue] at hsmall ⊢
      dsimp only at hsmall
      rw [startRevenue_error hrevenue] at hsmall
      exact Or.inr ⟨e, rfl, rfl, hs₂.stopped_revenue hsmall hphase₂ hrevenue⟩
    | ok summary =>
      rw [playRound_paid hbuild hallocation hopen hsubmitted hrevenue]
      obtain ⟨clock, _, _, he, _, _, hseason, rfl⟩ := startRevenue_eq_ok hrevenue
      obtain ⟨_, hclosed, hround''⟩ := enter_revenue he
      refine Or.inl ⟨_, rfl, rfl, ?_, ?_, ?_⟩
      · rw [hseason]
        rfl
      · rw [hseason]
        exact hclosed
      · rw [hseason]
        show clock.round.val = s.clock.round.val + 1
        rw [hround'', hclock, hround', hround]

omit hsub

section

variable {n : Nat} {s : Season}

theorem playRounds_finished (hf : s.Finished) :
    playRounds submission (n + 1) s = ⟨s, [], [], none⟩ := if_pos hf

variable (hf : ¬ s.Finished)
include hf

theorem playRounds_error {e : SeasonFault} (h : (s.playRound submission).answer = .error e) :
    playRounds submission (n + 1) s =
      ⟨(s.playRound submission).season, (s.playRound submission).closings, [], some e⟩ := by
  rw [playRounds, if_neg hf]
  simp only [h]

theorem playRounds_ok {report : RoundReport} (h : (s.playRound submission).answer = .ok report) :
    playRounds submission (n + 1) s =
      let rest := playRounds submission n (s.playRound submission).season
      { rest with
        closings := (s.playRound submission).closings ++ rest.closings
        reports := report :: rest.reports } := by
  rw [playRounds, if_neg hf]
  simp only [h]

end

include hsub

theorem playRounds_run (n : Nat) (s : Season) :
    Run Call.Played s (playRounds submission n s).season := by
  induction n generalizing s with
  | zero => exact .refl
  | succ n ih =>
    by_cases hf : s.Finished
    · rw [playRounds_finished hf]
    have hround := playRound_run hsub s
    cases hr : (s.playRound submission).answer with
    | error e =>
      rw [playRounds_error hf hr]
      exact hround
    | ok report =>
      rw [playRounds_ok hf hr]
      exact hround.trans (ih _)

structure Ended (rounds : Count) (s : Season) (p : Playthrough) : Prop where
  reported : p.closings = p.reports.map fun r => (r.summary, r.closing)
  inOrder : p.closings.map (·.1.round.val) =
    List.range' (s.clock.round.val + 1) p.closings.length
  outcome : (p.failure = none ∧ p.season.Finished ∧
      s.clock.round.val + p.closings.length = rounds.val) ∨
    ∃ e, p.failure = some e ∧ Stopped p.season e

theorem Ready.playRounds (n : Nat) (hs : Ready rounds s) (hphase : s.clock.phase = .revenue)
    (hn : rounds.val < s.clock.round.val + n)
    (hsmall : (playRounds submission n s).season.game.Small) :
    Ended rounds s (playRounds submission n s) := by
  induction n generalizing s with
  | zero => exact absurd hs.bounded (Nat.not_le.mpr hn)
  | succ n ih =>
    by_cases hf : s.Finished
    · have hmax : rounds.val ≤ s.clock.round.val := hs.max ▸ hf.1
      rw [playRounds_finished hf]
      exact ⟨rfl, rfl, Or.inl ⟨rfl, hf, Nat.le_antisymm hs.bounded hmax⟩⟩
    have hs' : Ready rounds (s.playRound submission).season := hs.run (playRound_run hsub s)
    cases hr : (s.playRound submission).answer with
    | error e =>
      rw [playRounds_error hf hr] at hsmall ⊢
      obtain ⟨_, h⟩ | ⟨_, h⟩ := hs.playRound hsub hphase hf hsmall
      · cases hr.symm.trans h.answer
      · obtain rfl := Except.error.inj (hr.symm.trans h.answer)
        rw [h.closings]
        exact ⟨rfl, rfl, Or.inr ⟨e, rfl, h.stopped⟩⟩
    | ok report =>
      rw [playRounds_ok hf hr] at hsmall ⊢
      have hsmall' : (s.playRound submission).season.game.Small :=
        (grown_of_run (playRounds_run hsub n _)).small hsmall
      obtain ⟨_, h⟩ | ⟨_, h⟩ := hs.playRound hsub hphase hf hsmall'
      · obtain rfl := Except.ok.inj (hr.symm.trans h.answer)
        have hnext := h.next
        obtain ⟨hreported, hinOrder, houtcome⟩ := ih hs' h.phase (by omega) hsmall
        rw [h.closings]
        dsimp only [List.singleton_append]
        refine ⟨congrArg (List.cons _) hreported, ?_, houtcome.imp ?_ id⟩
        · rw [List.map_cons, hinOrder, List.length_cons, List.range'_succ, h.round, hnext]
        · rintro ⟨hfailure, hfinished, hlength⟩
          refine ⟨hfailure, hfinished, ?_⟩
          rw [List.length_cons]
          omega
      · cases hr.symm.trans h.answer

end

theorem playIn_nil (s : Season) : s.playIn (fun _ => []) = s.play :=
  congrArg s.playBy (funext submitIn_nil)

/-- Whatever order the players take their turns in, and also if they ask one after the other, every round
that is played is reported once, with the summary of its revenue phase. -/
theorem play_ends {fresh : Nat → Uuid} {config : Config} {f : Founding} {s₀ : Season}
    (h₀ : ofConfig fresh config = .ok (s₀, f)) {p : Playthrough}
    (hp : p = s₀.play ∨ ∃ orders, p = s₀.playIn orders) (hsmall : p.season.game.Small) :
    p.closings = p.reports.map (fun r => (r.summary, r.closing)) ∧
    p.closings.map (·.1.round.val) = List.range' 1 p.closings.length ∧
    ((p.failure = none ∧ p.season.Finished ∧ p.closings.length = config.game.maxRounds.val) ∨
      ∃ e, p.failure = some e ∧ Stopped p.season e) := by
  obtain ⟨hready, hclock⟩ := ofConfig_ready h₀
  obtain ⟨orders, rfl⟩ : ∃ orders, p = s₀.playIn orders := by
    rcases hp with rfl | horders
    · exact ⟨_, (playIn_nil s₀).symm⟩
    · exact horders
  have hsub : ∀ s : Season, Run Call.AtDesk s (s.submitIn (orders s.clock.round)).1 :=
    fun s => submitIn_run (orders s.clock.round) s
  have hphase : s₀.clock.phase = .revenue := by rw [hclock]
  have hfuel : config.game.maxRounds.val <
      s₀.clock.round.val + (s₀.clock.max.val - s₀.clock.round.val + 1) := by
    rw [hclock]
    exact Nat.lt_of_lt_of_eq (Nat.lt_succ_self _) (Nat.zero_add _).symm
  obtain ⟨hreported, hinOrder, houtcome⟩ : Ended config.game.maxRounds s₀ (s₀.playIn orders) :=
    hready.playRounds hsub _ hphase hfuel hsmall
  have hround : s₀.clock.round.val = 0 := by rw [hclock]; rfl
  rw [hround, Nat.zero_add] at hinOrder houtcome
  exact ⟨hreported, hinOrder, houtcome⟩

theorem mill_played : ∃ s₀ f, ofConfig Uuid.serial millConfig = .ok (s₀, f) ∧ ∃ p,
    p = s₀.playIn (fun _ => [⟨.serial 0⟩]) ∧ p.failure = none ∧
      p.closings.map (·.1.round.val) = [1, 2, 3] ∧ p.season.Finished := by
  have hrun : (match ofConfig Uuid.serial millConfig with
    | .ok (s₀, _) =>
      let p := s₀.playIn fun _ => [⟨.serial 0⟩]
      (p.failure, p.season.game.parcels.size, p.season.game.assets.size,
        p.season.game.ledger.entries.length)
    | .error _ => (none, 0, 0, 0)) = (none, 1, 1, 10) := by decide +kernel
  cases h₀ : ofConfig Uuid.serial millConfig with
  | error e =>
    rw [h₀] at hrun
    cases hrun
  | ok x =>
    rw [h₀] at hrun
    obtain ⟨hfailure, hrun⟩ := Prod.mk.inj hrun
    obtain ⟨hparcels, hrun⟩ := Prod.mk.inj hrun
    obtain ⟨hassets, hentries⟩ := Prod.mk.inj hrun
    have hsmall : (x.1.playIn fun _ => [⟨.serial 0⟩]).season.game.Small :=
      ⟨by rw [hparcels]; decide, by rw [hassets]; decide, by rw [hentries]; decide⟩
    obtain ⟨_, hinOrder, ⟨_, hfinished, hlength⟩ | ⟨e, he, _⟩⟩ :=
      play_ends h₀ (Or.inr ⟨_, rfl⟩) hsmall
    · refine ⟨x.1, x.2, rfl, _, rfl, hfailure, ?_, hfinished⟩
      rw [hinOrder, hlength]
      rfl
    · rw [hfailure] at he
      cases he

end Watershed.Season
