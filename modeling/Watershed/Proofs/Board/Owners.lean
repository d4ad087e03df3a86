import Watershed.Board
import Watershed.Proofs.Roll.Sum

namespace Watershed.Board

theorem total_by_owner {b : Board} {share : Player → Count} {part : Parcel → Count}
    (hknown : ∀ q ∈ b.parcels.toList, ∀ id, q.waterOwner = some id →
      ∃ p ∈ b.players.toList, p.id = id)
    (h : ∀ p ∈ b.players.toList, (share p).val =
      b.parcels.sum fun q => if q.waterOwner = some p.id then (part q).val else 0) :
    Count.total (b.players.toList.map share) + Count.total (b.unowned.map part) =
      b.parcels.sum fun q => (part q).val := by
  have hplayers : Count.total (b.players.toList.map share) =
      b.parcels.sum fun q => if q.waterOwner.isSome then (part q).val else 0 := by
    rw [Roll.total_map, Roll.sum_congr h]
    -- the inner sum is over players now, of whom a parcel names at most one
    rw [Roll.sum_comm]
    refine Roll.sum_congr fun q hq => ?_
    cases ho : q.waterOwner with
    | none => simp [Roll.sum_zero]
    | some id =>
      obtain ⟨p, hp, rfl⟩ := hknown q hq id ho
      have hone := Roll.sum_at_of_mem (f := fun _ => (part q).val) hp
      simp only [key] at hone
      simp only [Option.some.injEq, Option.isSome_some, if_true, eq_comm (a := p.id), hone]
  have hparcels : Count.total (b.unowned.map part) =
      b.parcels.sum fun q => if q.waterOwner.isNone then (part q).val else 0 := Roll.total_filter
  rw [hplayers, hparcels, ← Roll.sum_add]
  refine Roll.sum_congr fun q _ => ?_
  cases q.waterOwner <;> simp

end Watershed.Board
