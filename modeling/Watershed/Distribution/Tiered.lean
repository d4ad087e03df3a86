import Watershed.Distribution.Share

namespace Watershed.Distribution.Tiered

def range : Nat := 15

def northFirst (a b : Parcel) : Bool :=
  b.position.y.val < a.position.y.val ||
    (a.position.y.val = b.position.y.val && a.id.uuid.val ≤ b.id.uuid.val)

def joins (top p : Parcel) : Bool := top.position.y.gap p.position.y ≤ range

def cut : List Parcel → List (List Parcel)
  | [] => []
  | top :: rest =>
    (top :: rest.takeWhile (joins top)) :: cut (rest.dropWhile (joins top))
termination_by l => l.length
decreasing_by
  have := (List.dropWhile_suffix (joins top) (l := rest)).length_le
  simp only [List.length_cons]
  omega

def tiers (parcels : Roll Parcel) : List (List Parcel) :=
  cut (parcels.toList.mergeSort northFirst)

def fill? (cap : Count) (remaining : Count) (shares : Shares) :
    List (List Parcel) → Option (List (ParcelId × Count) × Shares)
  | [] => some ([], shares)
  | tier :: rest => do
    let even := remaining.quot tier.length
    let each := min even cap
    let shares ← tier.foldlM (fun s p => s.addFor? p.waterOwner each) shares
    let used ← Count.ofNat? (each.val * tier.length)
    let poured := tier.map fun p => (p.id, each)
    if even < cap then some (poured, shares)
    else
      let (amounts, shares) ← fill? cap (remaining.subDownTo used) shares rest
      some (poured ++ amounts, shares)

def distribute? (cap : Count) (b : Board) (water : Count) : Option Distribution := do
  let (amounts, shares) ← fill? cap water (Shares.zero b.players) (tiers b.parcels)
  some (.ofPlan b shares ((Plan.dry b.parcels).putAll amounts))

end Watershed.Distribution.Tiered
