import Watershed.Season.Steps

namespace Watershed

def saturated (n : Nat) : UInt32 := UInt32.ofNat (min n 4294967295)

structure Tally where
  accepted : UInt32
  rejected : UInt32
deriving DecidableEq, Repr

def Tally.count (t : Tally) (got : Bool) : Tally :=
  if got then { t with accepted := saturated (t.accepted.toNat + 1) }
  else { t with rejected := saturated (t.rejected.toNat + 1) }

structure RoundReport where
  reset : Reset
  downpour : Downpour
  tallies : List (PlayerId × Tally)
  summary : Summary
  closing : Game

structure Played where
  season : Season
  closings : List (Summary × Game)
  answer : Except SeasonFault RoundReport

structure Playthrough where
  season : Season
  closings : List (Summary × Game)
  reports : List RoundReport
  failure : Option SeasonFault

namespace Season

def waterLeft (s : Season) (p : PlayerId) : Count :=
  match s.game.players.find? p with
  | some player => player.water
  | none => 0

def succeeded {α : Type} (t : Turn α) : Bool :=
  match t.answer with
  | .ok _ => true
  | .error _ => false

def ask (s : Season) (p : PlayerId) (a : Asset) : Season × Bool :=
  let full := s.changeAtDesk a.id p a.usage
  if succeeded full then (full.season, true)
  else if a.divisible then
    let part := full.season.changeAtDesk a.id p (min (full.season.waterLeft p) a.usage)
    (part.season, succeeded part)
  else (full.season, false)

def askAll (p : PlayerId) : Season → List Asset → Season × Tally
  | s, [] => (s, ⟨0, 0⟩)
  | s, a :: rest =>
    let (s, got) := s.ask p a
    let (s, tally) := askAll p s rest
    (s, tally.count got)

def wants (g : Game) (p : PlayerId) : List Asset :=
  (g.assetsOf p).mergeSort fun a b => !a.nominal.before b.nominal

def askers (g : Game) : List PlayerId :=
  (Roll.ofList (g.assets.toList.map fun a => (a.owner, ()))).keys

def submit : Season → List (PlayerId × List Asset) → Season × List (PlayerId × Tally)
  | s, [] => (s, [])
  | s, (p, assets) :: rest =>
    let (s, tally) := askAll p s assets
    let (s, tallies) := submit s rest
    (s, (p, tally) :: tallies)

def submitAll (s : Season) : Season × List (PlayerId × Tally) :=
  submit s ((askers s.game).map fun p => (p, wants s.game p))

abbrev Submission := Season → Season × List (PlayerId × Tally)

def playRound (submission : Submission) (s : Season) : Played :=
  let build := s.startBuild
  match build.answer with
  | .error e => ⟨build.season, build.closings, .error e⟩
  | .ok reset =>
    let allocation := build.season.startAllocation
    let closings := build.closings ++ allocation.closings
    match allocation.answer with
    | .error e => ⟨allocation.season, closings, .error e⟩
    | .ok downpour =>
      match allocation.season.desk with
      | .error e => ⟨allocation.season, closings, .error e⟩
      | .ok _ =>
        let (asked, tallies) := submission allocation.season
        let revenue := asked.startRevenue
        let closings := closings ++ revenue.closings
        match revenue.answer with
        | .error e => ⟨revenue.season, closings, .error e⟩
        | .ok summary =>
          ⟨revenue.season, closings,
            .ok ⟨reset, downpour, tallies, summary, revenue.season.game⟩⟩

def playRounds (submission : Submission) : Nat → Season → Playthrough
  | 0, s => ⟨s, [], [], none⟩
  | n + 1, s =>
    if s.Finished then ⟨s, [], [], none⟩
    else
      let round := s.playRound submission
      match round.answer with
      | .error e => ⟨round.season, round.closings, [], some e⟩
      | .ok report =>
        let rest := playRounds submission n round.season
        { rest with
          closings := round.closings ++ rest.closings
          reports := report :: rest.reports }

/-- Every round that is played raises the clock by one, so that the rounds left, and one more look
at the clock, are enough. -/
def playBy (submission : Submission) (s : Season) : Playthrough :=
  playRounds submission (s.clock.max.val - s.clock.round.val + 1) s

def play (s : Season) : Playthrough := s.playBy submitAll

end Season

namespace Playthrough

def totalRevenue (p : Playthrough) : Decimal :=
  (p.closings.map (·.1.totalRevenue)).foldl Decimal.addUpTo 0

end Playthrough
end Watershed
