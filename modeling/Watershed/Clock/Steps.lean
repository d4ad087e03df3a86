import Watershed.Clock

namespace Watershed.Clock

structure Reading (α : Type) where
  answer : Except ClockFault α
  clock : Clock

def lookSteps : EStateM ClockFault Clock (Count × Phase) := do
  MonadExcept.ofExcept (← get).next

def lookIntoSteps (phase : Phase) : EStateM ClockFault Clock Count := do
  let (round, reached) ← lookSteps
  if reached = phase then return round
  else throw (.outOfOrder (← get).phase phase)

def moveSteps : EStateM ClockFault Clock (Count × Phase) := do
  let (round, phase) ← lookSteps
  modify fun c => { c with round := round }
  modify fun c => { c with phase := phase }
  return (round, phase)

def perform {α : Type} (c : Clock) (x : EStateM ClockFault Clock α) : Reading α :=
  match x.run c with
  | .ok a c' => ⟨.ok a, c'⟩
  | .error e c' => ⟨.error e, c'⟩

def look (c : Clock) : Reading (Count × Phase) := c.perform lookSteps

def lookInto (c : Clock) (phase : Phase) : Reading Count := c.perform (lookIntoSteps phase)

def move (c : Clock) : Reading (Count × Phase) := c.perform moveSteps

inductive Call
  | look
  | lookInto (phase : Phase)
  | move
deriving DecidableEq

def after (c : Clock) : Call → Clock
  | .look => c.look.clock
  | .lookInto phase => (c.lookInto phase).clock
  | .move => c.move.clock

def afterAll (c : Clock) (calls : List Call) : Clock := calls.foldl after c

def moves : Clock → List Call → List (Except ClockFault (Count × Phase))
  | _, [] => []
  | c, call :: calls =>
    (if call = .move then [c.move.answer] else []) ++ moves (c.after call) calls

end Watershed.Clock
