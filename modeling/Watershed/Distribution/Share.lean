import Watershed.Board
import Watershed.Ledger.Draft

namespace Watershed

abbrev Shares := Roll (PlayerId × Count)

namespace Shares

def zero (players : Roll Player) : Shares := players.tabulate fun _ => 0

def of (s : Shares) (p : PlayerId) : Count :=
  match s.find? p with
  | some (_, n) => n
  | none => 0

def add? (s : Shares) (p : PlayerId) (n : Count) : Option Shares :=
  ((s.of p).add? n).map fun total => s.put (p, total)

def addFor? (s : Shares) (owner : Option PlayerId) (n : Count) : Option Shares :=
  match owner with
  | some p => s.add? p n
  | none => some s

end Shares

abbrev Plan := Roll (ParcelId × Count)

namespace Plan

def dry (parcels : Roll Parcel) : Plan := parcels.tabulate fun _ => 0

def on (p : Plan) (id : ParcelId) : Count :=
  match p.find? id with
  | some (_, n) => n
  | none => 0

def putAll (p : Plan) (l : List (ParcelId × Count)) : Plan := l.foldl Roll.put p

def pour (p : Plan) (parcels : Roll Parcel) : Roll Parcel :=
  parcels.map (fun parcel => { parcel with water := p.on parcel.id }) fun _ => rfl

end Plan

structure Distribution where
  shares : Shares
  parcels : Roll Parcel
  written : List ParcelId
deriving DecidableEq

namespace Distribution

def ofPlan (b : Board) (shares : Shares) (p : Plan) : Distribution :=
  ⟨shares, p.pour b.parcels, p.keys⟩

end Distribution

def proportionDown? (part water : Count) (whole : Nat) : Option Count :=
  if whole = 0 then none else Count.ofNat? (part.val * water.val / whole)

def proportionUp? (part water : Count) (whole : Nat) : Option Count :=
  if whole = 0 then none else Count.ofNat? ((part.val * water.val + whole - 1) / whole)

end Watershed
