import Watershed.Distribution.Tiered

namespace Watershed.Distribution.Tiered

def reaches (top y : Coordinate) : Bool := top.gap y ≤ range

structure Tiering where
  tiers : List (List ParcelId)
  top : Option Coordinate

namespace Tiering

def enter (t : Tiering) (p : Parcel) : Tiering :=
  let joins := t.top.any fun top => reaches top p.position.y
  match t.tiers.getLast?, joins with
  | some tier, true => { t with tiers := t.tiers.dropLast ++ [tier ++ [p.id]] }
  | _, _ => ⟨t.tiers ++ [[p.id]], some p.position.y⟩

end Tiering

def tiersInTurn (parcels : Roll Parcel) : List (List ParcelId) :=
  ((parcels.toList.mergeSort northFirst).foldl Tiering.enter ⟨[], none⟩).tiers

end Watershed.Distribution.Tiered
