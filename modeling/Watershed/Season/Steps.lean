import Watershed.Game.Steps
import Watershed.Season.Phases

namespace Watershed

structure Stage where
  season : Season
  notices : List Notice
  closings : List (Summary × Game)

namespace Stage

def scene (t : Stage) : Scene := ⟨t.season.game, t.notices⟩

def withScene (t : Stage) (s : Scene) : Stage :=
  { t with season := { t.season with game := s.game }, notices := s.notices }

end Stage

namespace Season

def onScene {ε α : Type} (fault : ε → SeasonFault) (x : EStateM ε Scene α) :
    EStateM SeasonFault Stage α := fun t =>
  match x.run t.scene with
  | .ok a s => .ok a (t.withScene s)
  | .error e s => .error (fault e) (t.withScene s)

def withRainfall (s : Season) (r : Rainfall) : Season :=
  { s with strategies := { s.strategies with rainfall := r } }

def onRainfall {α : Type} (x : EStateM RainfallFault Rainfall α) : EStateM SeasonFault Stage α := fun t =>
  match x.run t.season.strategies.rainfall with
  | .ok a r => .ok a { t with season := t.season.withRainfall r }
  | .error e r => .error (.rainfall e) { t with season := t.season.withRainfall r }

def look : EStateM SeasonFault Stage Season := return (← get).season

def write (f : Season → Season) : EStateM SeasonFault Stage Unit :=
  modify fun t => { t with season := f t.season }

def checkClock (phase : Phase) : EStateM SeasonFault Stage Count := do
  MonadExcept.ofExcept (((← look).clock.nextInto phase).mapError .clock)

def advanceClock : EStateM SeasonFault Stage Unit := do
  let clock ← MonadExcept.ofExcept ((← look).clock.advance.mapError .clock)
  write fun s => { s with clock := clock }

def resetInRound (round : Count) : EStateM GameFault Scene (Nat × Reset) := do
  let g ← Scene.look
  Scene.write fun g => g.setRound round
  let reset ← tryCatch Game.resetSteps fun e => do
    Scene.write fun h => h.setRound g.round
    throw e
  return (g.held, reset)

def buildSteps : EStateM SeasonFault Stage Reset := do
  let round ← checkClock .build
  let (opening, reset) ← onScene .game (resetInRound round)
  advanceClock
  write fun s => { s with opening := opening, downpour := ⟨0, 0, 0⟩ }
  return reset

def allocationSteps : EStateM SeasonFault Stage Downpour := do
  let _ ← checkClock .allocation
  let s ← look
  let water ← onRainfall (Rainfall.rain s.game.round s.game.toBoard)
  let downpour ← onScene .distribution (Game.distributeSteps s.strategies.distributor water)
  write fun s => { s with accepting := true }
  advanceClock
  write fun t =>
    { t with multipliers := s.strategies.economy.multipliers s.game.round, downpour := downpour }
  return downpour

def checkClosing : EStateM SeasonFault Stage (Count × Revenue) := do
  let round ← checkClock .revenue
  let s ← look
  MonadExcept.ofExcept (s.audit round)
  let revenue ← MonadExcept.ofExcept
    ((Revenue.byPlayer s.multipliers s.game.assets.toList).mapError .economy)
  MonadExcept.ofExcept ((revenue.toList.forM s.game.checkPayment).mapError .game)
  return (round, revenue)

def closeRound (round : Count) (revenue : Revenue) : EStateM SeasonFault Stage Summary := do
  write fun s => { s with accepting := false }
  onScene .game (revenue.toList.forM Game.creditStep)
  let s ← look
  let summary := s.summarize round revenue
  modify fun t => { t with closings := t.closings ++ [(summary, s.game)] }
  advanceClock
  return summary

def revenueSteps : EStateM SeasonFault Stage Summary := do
  let (round, revenue) ← checkClosing
  closeRound round revenue

def perform {α : Type} (s : Season) (x : EStateM SeasonFault Stage α) : Turn α :=
  match x.run ⟨s, [], []⟩ with
  | .ok a t => ⟨t.season, t.notices, t.closings, .ok a⟩
  | .error e t => ⟨t.season, t.notices, t.closings, .error e⟩

def startBuild (s : Season) : Turn Reset := s.perform buildSteps

def startAllocation (s : Season) : Turn Downpour := s.perform allocationSteps

def startRevenue (s : Season) : Turn Summary := s.perform revenueSteps

end Season
end Watershed
