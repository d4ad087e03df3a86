import Watershed.Clock.Steps
import Watershed.Proofs.Outcome
import Watershed.Proofs.Roll.Sum
import Watershed.Proofs.Steps
import Mathlib.Logic.Function.Iterate

namespace Watershed

def Phase.rest : Phase → Nat
  | .build => 2
  | .allocation => 1
  | .revenue => 0

theorem Phase.next_inj {p q : Phase} (h : p.next = q.next) : p = q := by
  revert h
  cases p <;> cases q <;> decide

namespace Clock

variable {round max : Count} {phase : Phase} {c : Clock}

theorem look_eq (c : Clock) : c.look = ⟨c.next, c⟩ := by
  simp only [look, perform, lookSteps, EStateM.run_bind, EStateM.run_get, run_ofExcept]
  cases c.next <;> rfl

theorem lookInto_eq (c : Clock) (phase : Phase) : c.lookInto phase = ⟨c.nextInto phase, c⟩ := by
  simp only [lookInto, perform, lookIntoSteps, lookSteps, EStateM.run_bind, EStateM.run_get,
    run_ofExcept, nextInto]
  cases c.next with
  | error e => rfl
  | ok x =>
    obtain ⟨round, reached⟩ := x
    dsimp only
    by_cases h : reached = phase
    · rw [if_pos h, ok_bind, if_pos h]
      rfl
    · rw [if_neg h, ok_bind, if_neg h]
      rfl

theorem move_eq (c : Clock) : c.move = match c.advance with
    | .ok d => ⟨.ok (d.round, d.phase), d⟩
    | .error e => ⟨.error e, c⟩ := by
  simp only [move, perform, moveSteps, lookSteps, EStateM.run_bind, EStateM.run_get,
    run_ofExcept, advance]
  cases c.next <;> rfl

theorem answer_move (c : Clock) : c.move.answer = c.next := by
  rw [move_eq, advance]
  cases c.next <;> rfl

def position (c : Clock) : Nat × Phase := (c.round.val, c.phase)

def onward (x : Nat × Phase) : Nat × Phase :=
  (if x.2.next = .build then x.1 + 1 else x.1, x.2.next)

def left (c : Clock) : Nat := 3 * (c.max.val - c.round.val) + c.phase.rest

theorem left_eq_zero : c.left = 0 ↔ c.Finished := by
  show 3 * (c.max.val - c.round.val) + c.phase.rest = 0 ↔
    c.max.val ≤ c.round.val ∧ c.phase = .revenue
  cases c.phase with
  | build
  | allocation => simp [Phase.rest]
  | revenue =>
    simp only [Phase.rest, and_true]
    omega

theorem next_of_finished (h : c.Finished) : c.next = .error (.finished c.max) := if_pos h

theorem next_of_running (h : ¬ c.Finished) :
    ∃ round, c.next = .ok (round, c.phase.next) ∧ (round.val, c.phase.next) = onward c.position := by
  rw [next, if_neg h]
  split
  · rename_i hp
    have hlt : c.round.val < c.max.val := Nat.lt_of_not_le fun hle => h ⟨hle, hp⟩
    obtain ⟨round, hround⟩ : ∃ round, c.round.add? 1 = some round :=
      Count.exists_ofNat? (Nat.lt_of_le_of_lt hlt c.max.val_lt)
    have hval : c.round.val + 1 = round.val := Count.add?_eq_some.mp hround
    rw [hround, hp]
    exact ⟨round, rfl, by simp [onward, position, hp, Phase.next, hval]⟩
  · rename_i hp
    have hphase : c.phase.next ≠ .build := fun e => hp (Phase.next_inj e)
    exact ⟨c.round, rfl, by simp [onward, position, hphase]⟩

theorem move_of_finished (h : c.Finished) : c.move = ⟨.error (.finished c.max), c⟩ := by
  rw [move_eq, advance, next_of_finished h]
  rfl

theorem move_of_running (h : ¬ c.Finished) (hc : c.round ≤ c.max) :
    ∃ d : Clock, c.move = ⟨.ok (d.round, d.phase), d⟩ ∧ d.position = onward c.position ∧
      d.max = c.max ∧ d.round ≤ d.max ∧ d.left + 1 = c.left := by
  obtain ⟨round, hnext, honward⟩ := next_of_running h
  refine ⟨⟨round, c.phase.next, c.max⟩, by rw [move_eq, advance, hnext]; rfl, honward, rfl, ?_⟩
  have hval : round.val = if c.phase.next = .build then c.round.val + 1 else c.round.val :=
    congrArg Prod.fst honward
  have hc : c.round.val ≤ c.max.val := hc
  have hrunning : ¬ (c.max.val ≤ c.round.val ∧ c.phase = .revenue) := h
  show round.val ≤ c.max.val ∧
    3 * (c.max.val - round.val) + c.phase.next.rest + 1 =
      3 * (c.max.val - c.round.val) + c.phase.rest
  cases hp : c.phase with
  | build
  | allocation =>
    simp only [hp, Phase.next, Phase.rest, reduceCtorEq, if_false] at hval ⊢
    omega
  | revenue =>
    simp only [hp, Phase.next, Phase.rest, if_true, and_true] at hval hrunning ⊢
    omega

theorem after_of_ne_move {call : Call} (h : call ≠ .move) : c.after call = c := by
  cases call with
  | look => exact congrArg Reading.clock (look_eq c)
  | lookInto phase => exact congrArg Reading.clock (lookInto_eq c phase)
  | move => exact absurd rfl h

def plainly (answer : Except ClockFault (Count × Phase)) : Except ClockFault (Nat × Phase) :=
  answer.map fun x => (x.1.val, x.2)

def answerAt (left : Nat) (max : Count) (x : Nat × Phase) (k : Nat) : Except ClockFault (Nat × Phase) :=
  if k < left then .ok (onward^[k + 1] x) else .error (.finished max)

theorem answerAt_succ (left : Nat) (max : Count) (x : Nat × Phase) (k : Nat) :
    answerAt (left + 1) max x (k + 1) = answerAt left max (onward x) k := by
  simp only [answerAt, Nat.add_lt_add_iff_right, Function.iterate_succ_apply]

theorem moves_eq (hc : c.round ≤ c.max) (calls : List Call) :
    (moves c calls).map plainly =
      (List.range (calls.count .move)).map (answerAt c.left c.max c.position) := by
  induction calls generalizing c with
  | nil => rfl
  | cons call calls ih =>
    by_cases hcall : call = .move
    · subst hcall
      rw [List.count_cons_self, List.range_succ_eq_map, moves, if_pos rfl, List.singleton_append,
        List.map_cons, List.map_cons, List.map_map]
      by_cases hf : c.Finished
      · rw [after, move_of_finished hf, ih hc, left_eq_zero.mpr hf]
        rfl
      · obtain ⟨d, hmove, hposition, hmax, hd, hleft⟩ := move_of_running hf hc
        rw [after, hmove, ih hd, ← hleft, hmax, hposition]
        refine congrArg₂ List.cons (congrArg Except.ok hposition) ?_
        exact List.map_congr_left fun k _ => (answerAt_succ _ _ _ k).symm
    · rw [moves, if_neg hcall, List.nil_append, after_of_ne_move hcall, ih hc,
        List.count_cons_of_ne hcall]

theorem afterAll_eq (hc : c.round ≤ c.max) (calls : List Call) :
    (c.afterAll calls).position = onward^[min (calls.count .move) c.left] c.position ∧
      (c.afterAll calls).max = c.max ∧ (c.afterAll calls).round ≤ (c.afterAll calls).max := by
  induction calls generalizing c with
  | nil => exact ⟨by simp [afterAll], rfl, hc⟩
  | cons call calls ih =>
    show ((c.after call).afterAll calls).position = _ ∧ ((c.after call).afterAll calls).max = _ ∧
      ((c.after call).afterAll calls).round ≤ ((c.after call).afterAll calls).max
    by_cases hcall : call = .move
    · subst hcall
      rw [List.count_cons_self, after]
      by_cases hf : c.Finished
      · have h := ih hc
        rw [left_eq_zero.mpr hf, Nat.min_zero] at h ⊢
        rwa [move_of_finished hf]
      · obtain ⟨d, hmove, hposition, hmax, hd, hleft⟩ := move_of_running hf hc
        have h := ih hd
        rw [hposition, hmax, ← Function.iterate_succ_apply] at h
        rwa [hmove, ← hleft, Nat.succ_min_succ]
    · rw [after_of_ne_move hcall, List.count_cons_of_ne hcall]
      exact ih hc

theorem nextInto_eq_ok : c.nextInto phase = .ok round ↔ c.next = .ok (round, phase) := by
  rw [nextInto, bind_eq_ok]
  constructor
  · rintro ⟨⟨r, reached⟩, hnext, h⟩
    dsimp only at h
    split at h
    · rename_i hp
      cases h
      rw [hnext, hp]
    · cases h
  · intro hnext
    exact ⟨_, hnext, if_pos rfl⟩

theorem nextInto_of_finished (h : c.Finished) : c.nextInto phase = .error (.finished c.max) := by
  rw [nextInto, next_of_finished h]
  rfl

theorem next_ne_exhausted (c : Clock) : c.next ≠ .error .roundsExhausted := by
  intro h
  by_cases hf : c.Finished
  · rw [next_of_finished hf] at h
    cases h
  · obtain ⟨_, hnext, _⟩ := next_of_running hf
    rw [hnext] at h
    cases h

theorem nextInto_ne_exhausted (c : Clock) (phase : Phase) :
    c.nextInto phase ≠ .error .roundsExhausted := by
  intro h
  rcases bind_eq_error.mp h with h | ⟨⟨r, reached⟩, _, h⟩
  · exact next_ne_exhausted c h
  · dsimp only at h
    split at h <;> cases h

theorem finished_iff : c.Finished ↔ ∃ e, c.next = .error e := by
  constructor
  · exact fun hf => ⟨_, next_of_finished hf⟩
  · rintro ⟨e, he⟩
    by_contra hf
    obtain ⟨_, hnext, _⟩ := next_of_running hf
    rw [hnext] at he
    cases he

structure Consistent (c : Clock) : Prop where
  bounded : c.round ≤ c.max
  finished_iff : c.Finished ↔ ∃ e, c.move.answer = .error e
  stopped : ∀ e, c.move.answer = .error e → e = .finished c.max ∧ c.move.clock = c
  look : c.look = ⟨c.move.answer, c⟩
  lookInto : ∀ phase, (c.lookInto phase).clock = c
  enters_iff : ∀ phase round,
    (c.lookInto phase).answer = .ok round ↔ c.move.answer = .ok (round, phase)
  enters_one : ¬ c.Finished → ∃! phase, ∃ round, (c.lookInto phase).answer = .ok round
  enters_none : c.Finished → ∀ phase, (c.lookInto phase).answer = .error (.finished c.max)
  in_range : c.move.answer ≠ .error .roundsExhausted ∧
    ∀ phase, (c.lookInto phase).answer ≠ .error .roundsExhausted

theorem consistent (hc : c.round ≤ c.max) : Consistent c where
  bounded := hc
  finished_iff := by
    rw [answer_move]
    exact finished_iff
  stopped := by
    intro e he
    rw [answer_move] at he
    have hf : c.Finished := finished_iff.mpr ⟨e, he⟩
    rw [next_of_finished hf] at he
    rw [move_of_finished hf]
    exact ⟨(Except.error.inj he).symm, rfl⟩
  look := by rw [look_eq, answer_move]
  lookInto phase := by rw [lookInto_eq]
  enters_iff phase round := by
    rw [lookInto_eq, answer_move]
    exact nextInto_eq_ok
  enters_one hf := by
    obtain ⟨round, hnext, _⟩ := next_of_running hf
    simp only [lookInto_eq, nextInto_eq_ok, hnext]
    refine ⟨c.phase.next, ⟨round, rfl⟩, ?_⟩
    rintro phase ⟨_, h⟩
    cases h
    rfl
  enters_none hf phase := by rw [lookInto_eq, nextInto_of_finished hf]
  in_range := by
    rw [answer_move]
    refine ⟨next_ne_exhausted c, fun phase => ?_⟩
    rw [lookInto_eq]
    exact nextInto_ne_exhausted c phase

theorem restore_eq_ok : restore round phase max = .ok c ↔
    max ≠ 0 ∧ round ≤ max ∧ c = ⟨round, phase, max⟩ := by
  unfold restore
  split
  · rename_i h
    simp [h]
  · rename_i h
    split
    · rename_i hlt
      have hgt : ¬ round ≤ max := Nat.not_le.mpr hlt
      simp [hgt]
    · rename_i hnot
      have hle : round ≤ max := Nat.not_lt.mp hnot
      simp [h, hle, eq_comm]

theorem runs_to_the_end (h : restore round phase max = .ok c) (calls : List Call) :
    (moves c calls).map plainly = (List.range (calls.count .move)).map
      (answerAt (3 * (max.val - round.val) + phase.rest) max (round.val, phase)) ∧
    (c.afterAll calls).position =
      onward^[min (calls.count .move) (3 * (max.val - round.val) + phase.rest)] (round.val, phase) ∧
    (c.afterAll calls).max = max ∧ Consistent (c.afterAll calls) := by
  obtain ⟨_, hc, rfl⟩ := restore_eq_ok.mp h
  obtain ⟨hposition, hmax, hbounded⟩ := afterAll_eq (c := ⟨round, phase, max⟩) hc calls
  exact ⟨moves_eq hc calls, hposition, hmax, consistent hbounded⟩

def eve : Clock := ⟨⟨18446744073709551614, by decide⟩, .revenue, .top⟩

theorem eve_runs_out : restore ⟨18446744073709551614, by decide⟩ .revenue .top = .ok eve ∧
    (moves eve [.move, .lookInto .build, .move, .lookInto .revenue, .move, .look, .move]).map plainly =
      [.ok (18446744073709551615, .build), .ok (18446744073709551615, .allocation),
        .ok (18446744073709551615, .revenue), .error (.finished .top)] ∧
    (eve.afterAll [.move, .lookInto .allocation, .lookInto .revenue]).position =
      (18446744073709551615, .build) ∧
    Consistent (eve.afterAll [.move, .move, .move, .move]) := by
  have h : restore ⟨18446744073709551614, by decide⟩ .revenue .top = .ok eve := by decide
  have hrun := runs_to_the_end h
  refine ⟨h, ?_, ?_, (hrun _).2.2.2⟩
  · rw [(hrun _).1]
    decide
  · rw [(hrun _).2.1]
    decide

end Clock
end Watershed
