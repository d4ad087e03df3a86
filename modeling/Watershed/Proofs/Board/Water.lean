import Watershed.Board
import Watershed.Distribution.Share
import Watershed.Proofs.Roll.Amount

namespace Watershed

def rewater (f : ParcelId → Count) (r : Roll Parcel) : Roll Parcel :=
  r.map (fun q => { q with water := f q.id }) fun _ => rfl

theorem sum_rewater (f : ParcelId → Count) (r : Roll Parcel) (w : Parcel → Nat) :
    (rewater f r).sum w = r.sum fun q => w { q with water := f q.id } := Roll.sum_map

theorem rewater_rewater (f f' : ParcelId → Count) (r : Roll Parcel) :
    rewater f' (rewater f r) = rewater f' r := by
  apply Roll.ext
  simp [rewater, Roll.map]

theorem rewater_self {f : ParcelId → Count} {r : Roll Parcel}
    (h : ∀ q ∈ r.toList, f q.id = q.water) : rewater f r = r :=
  Roll.map_eq_self fun q hq => by rw [h q hq]

end Watershed
