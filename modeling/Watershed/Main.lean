import Watershed.Document.Configuration
import Watershed.Document.Json
import Watershed.Document.Reports

namespace Watershed

inductive PlayFault
  | noFile (path : String)
  | config (fault : FileFault)
  | season (fault : SeasonFault)

def PlayFault.message : PlayFault → String
  | .noFile path => "config file not found: " ++ path
  | .config fault => "config error: " ++ fault.message
  | .season fault => "round error: " ++ fault.message Uuid.text

def standardPath : String := "waterwars-config.yaml"

def summaryLine (s : Summary) : String := Json.write (s.toDatum Uuid.text)

def standingLine (p : Player) : String := p.name ++ ": " ++ p.money.text

def openSeason (path : String) (seed : Option String) :
    Option ByteArray → Except PlayFault Season
  | none => .error (.noFile path)
  | some bytes => do
    let config ← (Config.ofFile seed (some bytes)).mapError .config
    let (season, _) ← (Season.ofConfig Uuid.serial config).mapError .season
    .ok season

def finalLines (p : Playthrough) : List String :=
  match p.failure with
  | none => p.season.game.players.toList.map standingLine ++ ["total: " ++ p.totalRevenue.text]
  | some _ => []

def playLines (p : Playthrough) : List String :=
  p.closings.map (fun x => summaryLine x.1) ++ finalLines p

def readFile? (path : String) : IO (Option ByteArray) := do
  try
    let bytes ← IO.FS.readBinFile path
    pure (some bytes)
  catch _ => pure none

def run (args : List String) : IO UInt32 := do
  let path := args.head?.getD standardPath
  let seed ← IO.getEnv GameSettings.seedVariable
  match openSeason path seed (← readFile? path) with
  | .error fault =>
    IO.eprintln fault.message
    pure 1
  | .ok season =>
    let played := season.play
    for line in playLines played do
      IO.println line
    match played.failure with
    | some fault =>
      IO.eprintln (PlayFault.season fault).message
      pure 1
    | none => pure 0

end Watershed

def main (args : List String) : IO UInt32 := Watershed.run args
