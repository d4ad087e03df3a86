import Watershed.Distribution.Distributor

namespace Watershed

inductive Overrun
  | stop
  | refuse
deriving DecidableEq, Repr

namespace Overrun

def addWide (o : Overrun) (m n : Nat) : Option Nat :=
  match o with
  | .stop => some (min (m + n) Count.wideTop)
  | .refuse => if m + n ≤ Count.wideTop then some (m + n) else none

def add (o : Overrun) (a b : Count) : Option Count :=
  match o with
  | .stop => some (a.addUpTo b)
  | .refuse => a.add? b

def sub (o : Overrun) (a b : Count) : Option Count :=
  match o with
  | .stop => some (a.subDownTo b)
  | .refuse => a.sub? b

def sumWide (o : Overrun) (cs : List Count) : Option Nat :=
  cs.foldlM (fun n c => o.addWide n c.val) 0

def sum (o : Overrun) (cs : List Count) : Option Count := cs.foldlM o.add 0

end Overrun

namespace Distribution

def Fair.wholeBy? (o : Overrun) (b : Board) : Option Nat := do
  let unowned ← o.sumWide (b.unowned.map (·.rights))
  let entitled ← o.sumWide (b.players.toList.map (·.entitlement))
  o.addWide entitled unowned

def Fair.topUp? (parts : List (ParcelId × Count)) (leftover : Count) (owned : List Parcel) :
    Option (List (ParcelId × Count)) :=
  if leftover = 0 then some parts
  else
    match greatest owned with
    | none => some parts
    | some p => parts.mapM fun x =>
      if x.1 = p.id then (x.2.add? leftover).map fun n => (x.1, n) else some x

def Fair.spreadBy? (o : Overrun) (share : Count) (owned : List Parcel) :
    Option (List (ParcelId × Count)) := do
  let whole ← o.sumWide (owned.map (·.rights))
  let parts ← owned.mapM fun p => (part? share whole p).map fun n => (p.id, n)
  let handed ← o.sum (parts.map (·.2))
  let leftover ← o.sub share handed
  topUp? parts leftover owned

def Fair.distributeBy? (o : Overrun) (b : Board) (water : Count) : Option Distribution := do
  let whole ← wholeBy? o b
  let shares ← b.players.toList.mapM fun p => (share? whole water p).map fun n => (p.id, n)
  let spreads ← shares.mapM fun x => spreadBy? o x.2 (ownedBy b x.1)
  some (.ofPlan b (.ofList shares) ((Plan.dry b.parcels).putAll spreads.flatten))

def PerParcel.distributeBy? (o : Overrun) (b : Board) (water : Count) : Option Distribution := do
  let whole ← o.sumWide (b.owned.map (·.rights))
  let amounts ← b.parcels.toList.mapM fun p => (amount? whole water p).map fun n => (p, n)
  let shares ← amounts.foldlM (fun s x => s.addFor? x.1.waterOwner x.2) (Shares.zero b.players)
  some (.ofPlan b shares ((Plan.dry b.parcels).putAll (amounts.map fun x => (x.1.id, x.2))))

def PlayerOnly.distributeBy? (o : Overrun) (b : Board) (water : Count) : Option Distribution := do
  let whole ← o.sumWide (b.players.toList.map (·.entitlement))
  let shares ← b.players.toList.mapM fun p => (share? whole water p).map fun n => (p.id, n)
  some ⟨.ofList shares, b.parcels, []⟩

def Tiered.fillBy? (o : Overrun) (cap : Count) (remaining : Count) (shares : Shares) :
    List (List Parcel) → Option (List (ParcelId × Count) × Shares)
  | [] => some ([], shares)
  | tier :: rest => do
    let even := remaining.quot tier.length
    let each := min even cap
    let shares ← tier.foldlM (fun s p => s.addFor? p.waterOwner each) shares
    let used ← Count.ofNat? (each.val * tier.length)
    let left ← o.sub remaining used
    let poured := tier.map fun p => (p.id, each)
    if even < cap then some (poured, shares)
    else
      let (amounts, shares) ← fillBy? o cap left shares rest
      some (poured ++ amounts, shares)

def Tiered.distributeBy? (o : Overrun) (cap : Count) (b : Board) (water : Count) :
    Option Distribution := do
  let (amounts, shares) ← fillBy? o cap water (Shares.zero b.players) (tiers b.parcels)
  some (.ofPlan b shares ((Plan.dry b.parcels).putAll amounts))

end Distribution

def Distributor.reckonBy? (o : Overrun) (b : Board) (water : Count) :
    Distributor → Option Distribution
  | .fair => Distribution.Fair.distributeBy? o b water
  | .perParcel => Distribution.PerParcel.distributeBy? o b water
  | .playerOnly => Distribution.PlayerOnly.distributeBy? o b water
  | .tiered cap => cap.bind fun cap => Distribution.Tiered.distributeBy? o cap b water

end Watershed
