import Watershed.Economy.Multipliers

namespace Watershed

def slotRank (slot : AssetKind × Count) : Nat := slot.1.position * 18446744073709551616 + slot.2.val

theorem AssetKind.position_inj {k k' : AssetKind} (h : k.position = k'.position) : k = k' := by
  cases k <;> cases k' <;> simp_all [position]

theorem slotRank_inj {a b : AssetKind × Count} (h : slotRank a = slotRank b) : a = b := by
  have ha := a.2.val_lt
  have hb := b.2.val_lt
  unfold slotRank at h
  have hkind : a.1.position = b.1.position := by omega
  have hlevel : a.2.val = b.2.val := by omega
  exact Prod.ext (AssetKind.position_inj hkind) (Count.ext hlevel)

instance : Key (AssetKind × Count) := Key.ofRank slotRank slotRank_inj

def Multipliers.set (m : Multipliers) (kind : AssetKind) (level : Count) (ratio : Decimal) :
    Multipliers :=
  ⟨fun k => if k = kind then (m.row k).set level.val ratio else m.row k⟩

namespace Economy

abbrev SeriesRoll := Roll ((AssetKind × Count) × RatioSeries)

def enterSeries (kind : AssetKind) (r : SeriesRoll) (x : Count × String) :
    Except ConfigFault SeriesRoll :=
  (readSeries kind x).map r.put

def enterLevels (r : SeriesRoll) (x : AssetKind × Roll (Count × String)) :
    Except ConfigFault SeriesRoll :=
  x.2.toList.foldlM (enterSeries x.1) r

def configureSteps (s : EconomySettings) : EStateM ConfigFault Economy Unit := do
  let series ← MonadExcept.ofExcept (s.series.toList.foldlM enterLevels .empty)
  set (Economy.mk series.toList)

def writeSlot (round : Count) (m : Multipliers) (x : (AssetKind × Count) × RatioSeries) :
    Multipliers :=
  m.set x.1.1 x.1.2 (x.2.ratioFor round)

def multipliersSteps (e : Economy) (round : Count) : Multipliers :=
  e.series.foldl (writeSlot round) .neutral

def configured (e : Economy) (s : EconomySettings) : Economy :=
  match (configureSteps s).run e with
  | .ok _ e' => e'
  | .error _ e' => e'

def configuredAll (e : Economy) (calls : List EconomySettings) : Economy := calls.foldl configured e

end Economy
end Watershed
