import Watershed.Settings

namespace Watershed

structure Multipliers where
  row : AssetKind → List Decimal

namespace Multipliers

def neutral : Multipliers := ⟨fun kind => List.replicate (kind.maxLevel + 1) 1⟩

instance : Inhabited Multipliers := ⟨neutral⟩

def get (m : Multipliers) (kind : AssetKind) (level : Count) : Decimal :=
  (m.row kind)[level.val]?.getD 1

end Multipliers

structure Economy where
  series : List ((AssetKind × Count) × RatioSeries)
deriving DecidableEq

namespace Economy

def unconfigured : Economy := ⟨[]⟩

instance : Inhabited Economy := ⟨unconfigured⟩

def name : Economy → String
  | _ => "series"

def seriesFor (e : Economy) (kind : AssetKind) (level : Nat) : Option RatioSeries :=
  (e.series.find? fun x => x.1.1 = kind && x.1.2.val = level).map (·.2)

def settingsKey (kind : AssetKind) (level : Count) : String :=
  "economy.series." ++ kind.name ++ "." ++ level.text

def readSeries (kind : AssetKind) (x : Count × String) :
    Except ConfigFault ((AssetKind × Count) × RatioSeries) :=
  let key := settingsKey kind x.1
  if x.1 = 0 ∨ kind.maxLevel < x.1.val then .error (.badLevel key)
  else (RatioSeries.readFor key x.2).map fun series => ((kind, x.1), series)

def ofSettings (s : EconomySettings) : Except ConfigFault Economy := do
  let rows ← s.series.toList.mapM fun x => x.2.toList.mapM (readSeries x.1)
  .ok ⟨rows.flatten⟩

def ratioFor (e : Economy) (round : Count) (kind : AssetKind) (level : Nat) : Decimal :=
  match e.seriesFor kind level with
  | some series => series.ratioFor round
  | none => 1

def multipliers (e : Economy) (round : Count) : Multipliers :=
  ⟨fun kind => (List.range (kind.maxLevel + 1)).map (e.ratioFor round kind)⟩

end Economy
end Watershed
