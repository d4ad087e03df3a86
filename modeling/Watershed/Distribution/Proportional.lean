import Watershed.Distribution.Share

namespace Watershed.Distribution.Fair

def whole (b : Board) : Nat := Count.wideSum b.demand

def share? (whole : Nat) (water : Count) (p : Player) : Option Count :=
  if whole = 0 then some 0
  else if whole ≤ water.val then some p.entitlement
  else proportionUp? p.entitlement water whole

def greatest : List Parcel → Option Parcel
  | [] => none
  | p :: rest =>
    match greatest rest with
    | none => some p
    | some q => if p.rights < q.rights then some q else some p

def part? (share : Count) (whole : Nat) (p : Parcel) : Option Count :=
  if whole = 0 then some 0 else proportionDown? p.rights share whole

def spread? (share : Count) (owned : List Parcel) : Option (List (ParcelId × Count)) := do
  let whole := Count.wideSum (owned.map (·.rights))
  let parts ← owned.mapM fun p => (part? share whole p).map fun n => (p.id, n)
  let leftover := share.subDownTo (Count.sumUpTo (parts.map (·.2)))
  if leftover = 0 then some parts
  else
    match greatest owned with
    | none => some parts
    | some p => parts.mapM fun x =>
      if x.1 = p.id then (x.2.add? leftover).map fun n => (x.1, n) else some x

def ownedBy (b : Board) (p : PlayerId) : List Parcel :=
  b.parcels.toList.filter (·.waterOwner = some p)

def distribute? (b : Board) (water : Count) : Option Distribution := do
  let whole := whole b
  let shares ← b.players.toList.mapM fun p => (share? whole water p).map fun n => (p.id, n)
  let spreads ← shares.mapM fun x => spread? x.2 (ownedBy b x.1)
  some (.ofPlan b (.ofList shares) ((Plan.dry b.parcels).putAll spreads.flatten))

end Watershed.Distribution.Fair

namespace Watershed.Distribution.PerParcel

def whole (b : Board) : Nat := Count.wideSum (b.owned.map (·.rights))

def amount? (whole : Nat) (water : Count) (p : Parcel) : Option Count :=
  match p.waterOwner with
  | none => some 0
  | some _ =>
    if whole = 0 then some 0
    else if whole ≤ water.val then some p.rights
    else proportionDown? p.rights water whole

def distribute? (b : Board) (water : Count) : Option Distribution := do
  let whole := whole b
  let amounts ← b.parcels.toList.mapM fun p => (amount? whole water p).map fun n => (p, n)
  let shares ← amounts.foldlM (fun s x => s.addFor? x.1.waterOwner x.2) (Shares.zero b.players)
  some (.ofPlan b shares ((Plan.dry b.parcels).putAll (amounts.map fun x => (x.1.id, x.2))))

end Watershed.Distribution.PerParcel

namespace Watershed.Distribution.PlayerOnly

def whole (b : Board) : Nat := Count.wideSum (b.players.toList.map (·.entitlement))

def share? (whole : Nat) (water : Count) (p : Player) : Option Count :=
  if whole = 0 then some 0
  else (proportionDown? p.entitlement water whole).map (min · p.entitlement)

def distribute? (b : Board) (water : Count) : Option Distribution := do
  let whole := whole b
  let shares ← b.players.toList.mapM fun p => (share? whole water p).map fun n => (p.id, n)
  some ⟨.ofList shares, b.parcels, []⟩

end Watershed.Distribution.PlayerOnly
