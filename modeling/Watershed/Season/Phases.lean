import Watershed.Season.Basic

namespace Watershed.Season

def tryBuild (s : Season) : Except SeasonFault (Season × List Notice × Reset) := do
  let clock ← s.enter .build
  let move ← (s.game.setRound clock.round).reset.mapError .game
  .ok ({ s with clock := clock, game := move.game, opening := s.game.held, downpour := ⟨0, 0, 0⟩ },
    move.notices, move.result)

def tryRain (s : Season) : Except SeasonFault (Count × Rainfall) := do
  let _ ← s.enter .allocation
  (s.strategies.rainfall.generate s.game.round s.game.toBoard).mapError .rainfall

def tryDistribute (s : Season) (water : Count) : Except SeasonFault (Season × List Notice × Downpour) := do
  let clock ← s.enter .allocation
  let move ← (s.game.distribute s.strategies.distributor water).mapError .distribution
  .ok (
    { s with
      clock := clock
      game := move.game
      accepting := true
      multipliers := s.strategies.economy.multipliers s.game.round
      downpour := move.result },
    move.notices, move.result)

def desk (s : Season) : Except SeasonFault Unit :=
  if s.clock.phase = .allocation then .ok () else .error (.allocationClosed s.clock.round)

def changeAtDesk (s : Season) (asset : AssetId) (player : PlayerId) (n : Count) : Turn Change :=
  s.attempt do
    if s.accepting then
      let move ← (s.game.changeAllocation asset player n).mapError .allocation
      .ok ({ s with game := move.game }, move.notices, move.result)
    else .error (.allocationClosed s.game.round)

def change (s : Season) (asset : AssetId) (player : PlayerId) (n : Count) : Turn Change :=
  match s.desk with
  | .error e => ⟨s, [], [], .error e⟩
  | .ok _ => s.changeAtDesk asset player n

def requestAtDesk (s : Season) (asset : AssetId) (player : PlayerId) (n : Int) : Turn Change :=
  match Allocation.requested n with
  | .error e => ⟨s, [], [], .error (.allocation e)⟩
  | .ok n => s.changeAtDesk asset player n

def audit (s : Season) (round : Count) : Except SeasonFault Unit :=
  match s.game.ledger.auditConservation round with
  | .anomaly a => .error (.anomaly a)
  | .balanced =>
    match s.game.ledger.auditHoldings round s.opening s.game.held with
    | .anomaly a => .error (.anomaly a)
    | .balanced => .ok ()

def payAll (g : Game) (r : Revenue) : Except GameFault Game :=
  r.toList.foldlM (fun g x => g.credit x.1 x.2) g

def totalOf (g : Game) (round : Count) (kind : EntryKind) : Count :=
  (g.ledger.total? round kind).getD 0

def summarize (s : Season) (round : Count) (r : Revenue) : Summary :=
  ⟨round, s.downpour.generated, s.downpour.distributed, totalOf s.game round .rainfall,
    totalOf s.game round .evaporate, totalOf s.game round .consume, totalOf s.game round .forfeit,
    Count.sumUpTo (s.game.assets.toList.map (·.allocated)), r, r.total⟩

def tryRevenue (s : Season) : Except SeasonFault (Season × List Notice × Summary) := do
  let clock ← s.enter .revenue
  s.audit clock.round
  let revenue ← (Revenue.byPlayer s.multipliers s.game.assets.toList).mapError .economy
  let game ← (payAll s.game revenue).mapError .game
  .ok ({ s with clock := clock, game := game, accepting := false }, [],
    s.summarize clock.round revenue)

end Watershed.Season
