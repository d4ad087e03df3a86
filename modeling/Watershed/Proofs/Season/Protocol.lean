import Watershed.Proofs.Game.Books
import Watershed.Proofs.Season.Call
import Watershed.Proofs.Season.Start
import Watershed.Season.Play

namespace Watershed.Season

def schedule (rounds : Nat) : List (Phase × Nat) :=
  (List.range rounds).flatMap fun r => [(.build, r + 1), (.allocation, r + 1), (.revenue, r + 1)]

theorem schedule_succ (n : Nat) :
    schedule (n + 1) = schedule n ++ [(.build, n + 1), (.allocation, n + 1), (.revenue, n + 1)] := by
  rw [schedule, List.range_succ, List.flatMap_append]
  rfl

theorem length_schedule (n : Nat) : (schedule n).length = 3 * n := by
  induction n with
  | zero => rfl
  | succ n ih =>
    rw [schedule_succ, List.length_append, ih]
    rfl

theorem schedule_prefix {m n : Nat} (h : m ≤ n) : schedule m <+: schedule n := by
  induction h with
  | refl => exact List.prefix_rfl
  | step _ ih =>
    rw [schedule_succ]
    exact ih.trans (List.prefix_append _ _)

def milestone {α : Type} (phase : Phase) (t : Turn α) : List (Phase × Nat) :=
  if succeeded t then [(phase, t.season.clock.round.val)] else []

def entered (s : Season) : Call → List (Phase × Nat)
  | .startBuild => milestone .build s.startBuild
  | .startAllocation => milestone .allocation s.startAllocation
  | .startRevenue => milestone .revenue s.startRevenue
  | _ => []

def transitions : Season → List Call → List (Phase × Nat)
  | _, [] => []
  | s, c :: calls => s.entered c ++ transitions (s.after c) calls

def behind (c : Clock) : List (Phase × Nat) :=
  match c.phase with
  | .revenue => schedule c.round.val
  | .build => schedule (c.round.val - 1) ++ [(.build, c.round.val)]
  | .allocation =>
    schedule (c.round.val - 1) ++ [(.build, c.round.val), (.allocation, c.round.val)]

structure InStep (rounds : Count) (s : Season) (done : List (Phase × Nat)) : Prop where
  behind : done = behind s.clock
  max : s.clock.max = rounds
  begun : s.clock.phase ≠ .revenue → 0 < s.clock.round.val
  bounded : s.clock.round.val ≤ rounds.val
  round : s.game.round = s.clock.round
  accepting : s.accepting = true ↔ s.clock.phase = .allocation

theorem enter_running {s : Season} {phase : Phase} {clock : Clock} (h : s.enter phase = .ok clock) :
    ¬ s.Finished ∧ clock.max = s.clock.max := by
  obtain ⟨⟨round, reached⟩, hnext, hclock⟩ := bind_eq_ok.mp (enter_advance h)
  obtain rfl := Except.ok.inj hclock
  refine ⟨fun hf => ?_, rfl⟩
  rw [Clock.next_of_finished hf] at hnext
  cases hnext

theorem enter_finished {s : Season} (h : s.Finished) (phase : Phase) :
    s.enter phase = .error (.clock (.finished s.clock.max)) := by
  rw [enter, Clock.nextInto_of_finished h]

variable {rounds : Count} {s : Season} {done : List (Phase × Nat)}

theorem InStep.attempt {α : Type} {phase : Phase}
    {r : Except SeasonFault (Season × List Notice × α)} (hs : InStep rounds s done)
    (h : ∀ s' notices a, r = .ok (s', notices, a) →
      InStep rounds s' (done ++ [(phase, s'.clock.round.val)])) :
    InStep rounds (s.attempt r).season (done ++ milestone phase (s.attempt r)) := by
  unfold Season.attempt
  split
  · exact h _ _ _ rfl
  · show InStep rounds s (done ++ [])
    rwa [List.append_nil]

theorem InStep.startBuild (hs : InStep rounds s done) :
    InStep rounds s.startBuild.season (done ++ milestone .build s.startBuild) := by
  rw [startBuild_eq]
  refine hs.attempt fun s' notices a h => ?_
  obtain ⟨clock, he, h⟩ := bind_eq_ok.mp h
  obtain ⟨m, hm, h⟩ := bind_eq_ok.mp h
  cases h
  obtain ⟨hrunning, hmax⟩ := enter_running he
  obtain ⟨hphase, hphase', hround⟩ := enter_build he
  obtain ⟨_, hg⟩ := Game.reset_eq_ok (mapError_eq_ok.mp hm)
  have hlt : s.clock.round.val < s.clock.max.val :=
    Nat.lt_of_not_le fun hle => hrunning ⟨hle, hphase⟩
  refine ⟨?_, hmax.trans hs.max, fun _ => ?_, ?_, ?_, ?_⟩
  · have hdone := hs.behind
    simp only [Season.behind, hphase] at hdone
    simp only [Season.behind, hphase', ← hround, Nat.add_sub_cancel, hdone]
  · show 0 < clock.round.val
    omega
  · show clock.round.val ≤ rounds.val
    rw [← hs.max]
    omega
  · show m.game.round = clock.round
    rw [← hg]
    rfl
  · show s.accepting = true ↔ clock.phase = .allocation
    rw [hs.accepting, hphase, hphase']
    simp

theorem InStep.startAllocation (hs : InStep rounds s done) :
    InStep rounds s.startAllocation.season (done ++ milestone .allocation s.startAllocation) := by
  rw [startAllocation_eq]
  cases hr : s.tryRain with
  | error e =>
    show InStep rounds s (done ++ [])
    rwa [List.append_nil]
  | ok x =>
    obtain ⟨water, rainfall⟩ := x
    have hrained : InStep rounds (s.withRainfall rainfall) done :=
      ⟨hs.behind, hs.max, hs.begun, hs.bounded, hs.round, hs.accepting⟩
    refine hrained.attempt fun s' notices a h => ?_
    obtain ⟨clock, he, h⟩ := bind_eq_ok.mp h
    obtain ⟨m, hm, h⟩ := bind_eq_ok.mp h
    cases h
    have hmax := (enter_running he).2
    obtain ⟨hphase, hphase', hround⟩ := enter_allocation he
    obtain ⟨r, _, _, hg⟩ := Game.distribute_eq_ok (mapError_eq_ok.mp hm)
    have hdone := hrained.behind
    simp only [Season.behind, hphase] at hdone
    refine ⟨?_, hmax.trans hrained.max, fun _ => ?_, ?_, ?_, ?_⟩
    · simp only [Season.behind, hphase', hround, hdone, List.append_assoc, List.cons_append,
        List.nil_append]
    · show 0 < clock.round.val
      rw [hround]
      exact hrained.begun (by rw [hphase]; simp)
    · show clock.round.val ≤ rounds.val
      rw [hround]
      exact hrained.bounded
    · show m.game.round = clock.round
      rw [← hg, hround]
      exact hrained.round
    · exact iff_of_true rfl hphase'

theorem InStep.startRevenue (hs : InStep rounds s done) :
    InStep rounds s.startRevenue.season (done ++ milestone .revenue s.startRevenue) := by
  rw [startRevenue_eq]
  refine hs.attempt fun s' notices a h => ?_
  obtain ⟨clock, r, g, he, _, hg, rfl, _, _⟩ := tryRevenue_eq_ok h
  have hmax := (enter_running he).2
  obtain ⟨hphase, hphase', hround⟩ := enter_revenue he
  obtain ⟨players, rfl⟩ := Game.credits_eq_ok hg
  have hbegun := hs.begun (by rw [hphase]; simp)
  have hdone := hs.behind
  simp only [Season.behind, hphase] at hdone
  refine ⟨?_, hmax.trans hs.max, fun hr => absurd hphase' hr, ?_, ?_, ?_⟩
  · -- the third phase completes a round of the schedule
    obtain ⟨n, hn⟩ := Nat.exists_eq_succ_of_ne_zero (Nat.ne_of_gt hbegun)
    simp only [Season.behind, hphase', hround, hdone, hn, Nat.succ_eq_add_one, schedule_succ,
      Nat.add_sub_cancel, List.append_assoc, List.cons_append, List.nil_append]
  · show clock.round.val ≤ rounds.val
    rw [hround]
    exact hs.bounded
  · show s.game.round = clock.round
    rw [hround]
    exact hs.round
  · show false = true ↔ clock.phase = .allocation
    rw [hphase']
    simp

def Call.Stays : Call → Prop
  | .startBuild | .startAllocation | .startRevenue => False
  | _ => True

theorem InStep.stay {s' : Season} {c : Call} (hs : InStep rounds s done)
    (h : Moved s c s') (hc : c.Stays) : InStep rounds s' (done ++ []) := by
  rw [List.append_nil]
  cases h with
  | refused => exact hs
  | rained => exact hc.elim
  | build => exact hc.elim
  | allocation => exact hc.elim
  | revenue => exact hc.elim
  | change _ _ _ _ m _ hm =>
    obtain ⟨_, _, _, _, _, _, _, _, hcarried⟩ := Game.changeAllocation_eq_ok hm
    exact ⟨hs.behind, hs.max, hs.begun, hs.bounded, hcarried.round.trans hs.round, hs.accepting⟩
  | deal _ g hg =>
    exact ⟨hs.behind, hs.max, hs.begun, hs.bounded, (Game.deal_frame hg).1.trans hs.round,
      hs.accepting⟩

theorem InStep.after (hs : InStep rounds s done) (c : Call) :
    InStep rounds (s.after c) (done ++ s.entered c) := by
  cases c with
  | startBuild => exact hs.startBuild
  | startAllocation => exact hs.startAllocation
  | startRevenue => exact hs.startRevenue
  | change asset player n => exact hs.stay (after_moved s (.change asset player n)) trivial
  | changeAtDesk asset player n => exact hs.stay (after_moved s (.changeAtDesk asset player n)) trivial
  | requestAtDesk asset player n => exact hs.stay (after_moved s (.requestAtDesk asset player n)) trivial
  | deal d => exact hs.stay (after_moved s (.deal d)) trivial

theorem InStep.afterAll (hs : InStep rounds s done) (calls : List Call) :
    InStep rounds (s.afterAll calls) (done ++ transitions s calls) := by
  induction calls generalizing s done with
  | nil => rwa [transitions, List.append_nil]
  | cons c calls ih =>
    rw [transitions, ← List.append_assoc]
    exact ih (hs.after c)

def consult (s : Season) (asset : AssetId) (player : PlayerId) (n : Count) : Turn Change :=
  s.attempt do
    let move ← (s.game.changeAllocation asset player n).mapError .allocation
    .ok ({ s with game := move.game }, move.notices, move.result)

def Open (s : Season) : Prop :=
  s.desk = .ok () ∧ ∀ asset player n, s.change asset player n = s.consult asset player n ∧
    s.changeAtDesk asset player n = s.consult asset player n ∧
    s.requestAtDesk asset player n.val = s.consult asset player n

def Closed (s : Season) : Prop :=
  s.desk = .error (.allocationClosed s.game.round) ∧
    (∀ asset player n,
      s.change asset player n = ⟨s, [], [], .error (.allocationClosed s.game.round)⟩ ∧
      s.changeAtDesk asset player n = ⟨s, [], [], .error (.allocationClosed s.game.round)⟩ ∧
      s.requestAtDesk asset player n.val = ⟨s, [], [], .error (.allocationClosed s.game.round)⟩) ∧
    ∀ asset player (n : Nat), s.requestAtDesk asset player (.negSucc n) =
      ⟨s, [], [], .error (.allocation (.negative (.negSucc n)))⟩

theorem requestAtDesk_val (s : Season) (asset : AssetId) (player : PlayerId) (n : Count) :
    s.requestAtDesk asset player n.val = s.changeAtDesk asset player n := by
  have hlt := n.val_lt
  have hclamp : Count.clamp n.val = n := by
    refine Count.ext ?_
    rw [Count.val_clamp]
    omega
  show s.changeAtDesk asset player (Count.clamp n.val) = _
  rw [hclamp]

theorem InStep.open (hs : InStep rounds s done) (h : s.clock.phase = .allocation) : s.Open := by
  have hdesk : s.desk = .ok () := if_pos h
  have hchange : ∀ asset player n, s.changeAtDesk asset player n = s.consult asset player n := by
    intro asset player n
    rw [changeAtDesk, if_pos (hs.accepting.mpr h), consult]
  refine ⟨hdesk, fun asset player n => ⟨?_, hchange asset player n, ?_⟩⟩
  · rw [Season.change, hdesk]
    exact hchange asset player n
  · rw [requestAtDesk_val, hchange]

theorem InStep.closed (hs : InStep rounds s done) (h : s.clock.phase ≠ .allocation) : s.Closed := by
  have hdesk : s.desk = .error (.allocationClosed s.game.round) := by
    rw [desk, if_neg h, hs.round]
  have hchange : ∀ asset player n, s.changeAtDesk asset player n =
      ⟨s, [], [], .error (.allocationClosed s.game.round)⟩ := by
    intro asset player n
    rw [changeAtDesk, if_neg fun ha => h (hs.accepting.mp ha)]
    rfl
  refine ⟨hdesk, fun asset player n => ⟨?_, hchange asset player n, ?_⟩, fun _ _ _ => rfl⟩
  · rw [Season.change, hdesk]
  · rw [requestAtDesk_val, hchange]

theorem InStep.transitions_prefix (hs : InStep rounds s done) : done <+: schedule rounds.val := by
  have hdone := hs.behind
  have hle := hs.bounded
  have hround : s.clock.phase ≠ .revenue →
      schedule (s.clock.round.val - 1) ++ [(.build, s.clock.round.val),
        (.allocation, s.clock.round.val), (.revenue, s.clock.round.val)] <+: schedule rounds.val := by
    intro hr
    have hpos := hs.begun hr
    obtain ⟨n, hn⟩ := Nat.exists_eq_succ_of_ne_zero (Nat.ne_of_gt hpos)
    rw [hn, Nat.succ_eq_add_one, Nat.add_sub_cancel, ← schedule_succ]
    exact schedule_prefix (by omega)
  unfold Season.behind at hdone
  split at hdone
  · rw [hdone]
    exact schedule_prefix hle
  · rename_i hp
    rw [hdone]
    refine List.IsPrefix.trans ?_ (hround (by rw [hp]; simp))
    exact (List.prefix_append_right_inj _).mpr ⟨_, rfl⟩
  · rename_i hp
    rw [hdone]
    refine List.IsPrefix.trans ?_ (hround (by rw [hp]; simp))
    exact (List.prefix_append_right_inj _).mpr ⟨_, rfl⟩

theorem InStep.finished_iff (hs : InStep rounds s done) :
    s.Finished ↔ done.length = 3 * rounds.val := by
  have hdone := congrArg List.length hs.behind
  have hle := hs.bounded
  have hmax : s.clock.max.val = rounds.val := congrArg Count.val hs.max
  have hf : s.Finished ↔ s.clock.max.val ≤ s.clock.round.val ∧ s.clock.phase = .revenue := Iff.rfl
  rw [hf, hdone, hmax]
  unfold Season.behind
  split
  · rename_i hp
    rw [length_schedule]
    simp only [hp, and_true]
    omega
  · rename_i hp
    have hpos := hs.begun (by rw [hp]; simp)
    simp only [hp, reduceCtorEq, and_false, false_iff, List.length_append, length_schedule,
      List.length_cons, List.length_nil]
    omega
  · rename_i hp
    have hpos := hs.begun (by rw [hp]; simp)
    simp only [hp, reduceCtorEq, and_false, false_iff, List.length_append, length_schedule,
      List.length_cons, List.length_nil]
    omega

theorem InStep.of_start {strategies : Strategies} {g : Game} (hg : g.round = 0)
    (h : start strategies g rounds = .ok s) : InStep rounds s [] := by
  obtain rfl := start_eq_ok h
  exact ⟨rfl, rfl, fun h => absurd rfl h, Nat.zero_le _, hg, by simp⟩

theorem start_inStep (strategies : Strategies) {g : Game} (hg : g.round = 0)
    (hr : rounds ≠ 0) : ∃ s, start strategies g rounds = .ok s ∧ InStep rounds s [] := by
  have h : start strategies g rounds =
      .ok ⟨⟨0, .revenue, rounds⟩, g, strategies, false, .neutral, 0, ⟨0, 0, 0⟩⟩ := by
    rw [start, Clock.start, if_neg hr]
    rfl
  exact ⟨_, h, .of_start hg h⟩

theorem phases_in_order (strategies : Strategies) {g : Game} (hg : g.round = 0) {rounds : Count}
    (hr : rounds ≠ 0) : ∃ s₀, start strategies g rounds = .ok s₀ ∧ ∀ calls s,
      s₀.afterAll calls = s →
        transitions s₀ calls <+: schedule rounds.val ∧
        s.game.round = s.clock.round ∧
        (s.clock.phase = .allocation → s.Open) ∧
        (s.clock.phase ≠ .allocation → s.Closed) ∧
        (s.Finished ↔ (transitions s₀ calls).length = 3 * rounds.val) ∧
        (s.Finished →
          s.startBuild = ⟨s, [], [], .error (.clock (.finished rounds))⟩ ∧
          s.startAllocation = ⟨s, [], [], .error (.clock (.finished rounds))⟩ ∧
          s.startRevenue = ⟨s, [], [], .error (.clock (.finished rounds))⟩) := by
  obtain ⟨s₀, hstart, h₀⟩ := start_inStep strategies hg hr
  refine ⟨s₀, hstart, fun calls s hcalls => ?_⟩
  have hs := h₀.afterAll calls
  rw [List.nil_append, hcalls] at hs
  refine ⟨hs.transitions_prefix, hs.round, hs.open, hs.closed, hs.finished_iff, fun hf => ?_⟩
  have hmax := hs.max
  have hb := enter_finished hf .build
  have ha := enter_finished hf .allocation
  have hv := enter_finished hf .revenue
  rw [hmax] at hb ha hv
  refine ⟨?_, ?_, ?_⟩
  · rw [startBuild_eq, tryBuild, hb]
    rfl
  · rw [startAllocation_eq, tryRain, ha]
    rfl
  · rw [startRevenue_eq, tryRevenue, hv]
    rfl

def hurried : List Call :=
  [.startAllocation, .startBuild, .change Sample.mill Sample.miller.id (.clamp 3), .startRevenue,
    .startAllocation, .startBuild, .changeAtDesk Sample.mill Sample.miller.id (.clamp 3),
    .startRevenue, .changeAtDesk Sample.mill Sample.miller.id 0]

theorem hurried_in_order : ∃ s₀, start ⟨.utopian (some (.clamp 8)), .perParcel, .parcelOriented,
      .unconfigured⟩ (Game.afterAll .empty Sample.settling) 1 = .ok s₀ ∧
    transitions s₀ hurried = [(.build, 1), (.allocation, 1), (.revenue, 1)] ∧
    (s₀.afterAll hurried).startBuild.answer = .error (.clock (.finished 1)) ∧
    ((s₀.afterAll hurried).changeAtDesk Sample.mill Sample.miller.id 0).answer =
      .error (.allocationClosed 1) := by
  have hround : (Game.afterAll .empty Sample.settling).round = 0 := by decide +kernel
  obtain ⟨s₀, h, hall⟩ := phases_in_order ⟨.utopian (some (.clamp 8)), .perParcel, .parcelOriented,
    .unconfigured⟩ hround (show (1 : Count) ≠ 0 by decide)
  obtain rfl := start_eq_ok h
  obtain ⟨_, _, _, hclosed, _, hfinished⟩ := hall hurried _ rfl
  refine ⟨_, h, by decide +kernel, ?_, ?_⟩
  · rw [(hfinished (by decide +kernel)).1]
  · rw [((hclosed (by decide +kernel)).2.1 Sample.mill Sample.miller.id 0).2.1]
    decide +kernel

end Watershed.Season
