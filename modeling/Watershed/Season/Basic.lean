import Watershed.Allocation.Change
import Watershed.Clock
import Watershed.Economy.Revenue
import Watershed.Founding
import Watershed.Game.Turnover
import Watershed.Strategies

namespace Watershed

inductive SeasonFault
  | clock (fault : ClockFault)
  | config (fault : ConfigFault)
  | scenario (fault : ScenarioFault)
  | rainfall (fault : RainfallFault)
  | distribution (fault : DistributionFault)
  | allocation (fault : AllocationFault)
  | game (fault : GameFault)
  | economy (fault : RevenueFault)
  | allocationClosed (round : Count)
  | anomaly (anomaly : Anomaly)
deriving DecidableEq, Repr

def SeasonFault.message (naming : Naming) : SeasonFault → String
  | .clock fault => "clock error: " ++ fault.message
  | .config fault => "configuration error: " ++ fault.message
  | .scenario fault => "scenario error: " ++ fault.message naming
  | .rainfall fault => "rainfall error: " ++ fault.message
  | .distribution fault => "distribution error: " ++ fault.message naming
  | .allocation fault => "allocation error: " ++ fault.message naming
  | .game fault => "game error: " ++ fault.message naming
  | .economy fault => "economy error: " ++ fault.message
  | .allocationClosed round => "allocation is closed in round " ++ round.text
  | .anomaly a => "water ledger anomaly: " ++ a.message

structure Summary where
  round : Count
  generated : Count
  distributed : Count
  rainfall : Count
  evaporated : Count
  consumed : Count
  forfeited : Count
  allocated : Count
  revenue : Revenue
  totalRevenue : Decimal
deriving DecidableEq

structure Season where
  clock : Clock
  game : Game
  strategies : Strategies
  accepting : Bool
  multipliers : Multipliers
  opening : Nat
  downpour : Downpour

structure Turn (α : Type) where
  season : Season
  notices : List Notice
  closings : List (Summary × Game)
  answer : Except SeasonFault α

namespace Season

def start (strategies : Strategies) (game : Game) (maxRounds : Count) :
    Except SeasonFault Season := do
  let clock ← (Clock.start maxRounds).mapError .clock
  .ok ⟨clock, game, strategies, false, .neutral, 0, ⟨0, 0, 0⟩⟩

def ofConfig (fresh : Nat → Uuid) (c : Config) : Except SeasonFault (Season × Founding) := do
  let strategies ← (Strategies.ofKinds c.strategies c.water c.economy c.game.seed).mapError .config
  let founding ← (c.scenario.found fresh c.water).mapError .scenario
  let season ← start strategies founding.game c.game.maxRounds
  .ok (season, founding)

def Finished (s : Season) : Prop := s.clock.Finished

instance (s : Season) : Decidable s.Finished := inferInstanceAs (Decidable s.clock.Finished)

def attempt {α : Type} (s : Season) (r : Except SeasonFault (Season × List Notice × α)) : Turn α :=
  match r with
  | .ok (s', notices, a) => ⟨s', notices, [], .ok a⟩
  | .error e => ⟨s, [], [], .error e⟩

def enter (s : Season) (phase : Phase) : Except SeasonFault Clock :=
  match s.clock.nextInto phase with
  | .error e => .error (.clock e)
  | .ok _ => s.clock.advance.mapError .clock

end Season
end Watershed
