import Watershed.Count
import Watershed.Kinds

namespace Watershed

inductive ClockFault
  | roundsExhausted
  | finished (max : Count)
  | outOfOrder (current requested : Phase)
  | noRounds
  | pastEnd (round max : Count)
deriving DecidableEq, Repr

def ClockFault.message : ClockFault → String
  | .roundsExhausted => "round counter overflow: cannot advance beyond u64::MAX"
  | .finished max => "game finished after " ++ max.text ++ " rounds"
  | .outOfOrder current requested => "cannot enter " ++ requested.name ++ " from " ++ current.name
  | .noRounds => "invalid clock configuration: max_rounds must be at least 1"
  | .pastEnd round max =>
    "invalid clock configuration: round " ++ round.text ++ " is past max_rounds " ++ max.text

structure Clock where
  round : Count
  phase : Phase
  max : Count
deriving DecidableEq, Repr

namespace Clock

def start (max : Count) : Except ClockFault Clock :=
  if max = 0 then .error .noRounds else .ok ⟨0, .revenue, max⟩

def restore (round : Count) (phase : Phase) (max : Count) : Except ClockFault Clock :=
  if max = 0 then .error .noRounds
  else if max < round then .error (.pastEnd round max)
  else .ok ⟨round, phase, max⟩

def Finished (c : Clock) : Prop := c.max ≤ c.round ∧ c.phase = .revenue

instance (c : Clock) : Decidable c.Finished := inferInstanceAs (Decidable (_ ∧ _))

def next (c : Clock) : Except ClockFault (Count × Phase) :=
  if c.Finished then .error (.finished c.max)
  else
    match c.phase with
    | .revenue =>
      match c.round.add? 1 with
      | some round => .ok (round, .build)
      | none => .error .roundsExhausted
    | phase => .ok (c.round, phase.next)

def nextInto (c : Clock) (phase : Phase) : Except ClockFault Count := do
  let (round, reached) ← c.next
  if reached = phase then .ok round else .error (.outOfOrder c.phase phase)

def advance (c : Clock) : Except ClockFault Clock := do
  let (round, phase) ← c.next
  .ok { c with round := round, phase := phase }

end Clock
end Watershed
