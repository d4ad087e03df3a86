import Watershed.Allocation.Change
import Watershed.Proofs.Allocation.GiveBack

namespace Watershed.Allocation

def waterOf (g : Game) (p : PlayerId) (ids : List ParcelId) : List (ParcelId × Count) :=
  (ids.filterMap g.parcels.find?).filterMap fun q =>
    if q.waterOwner = some p then some (q.id, q.water) else none

theorem ownedWater_eq (g : Game) (p : Player) :
    ownedWater g p = Roll.ofList (waterOf g p.id p.rights.toList) := rfl

theorem waterOf_sublist (g : Game) (p : PlayerId) (ids : List ParcelId) :
    ((waterOf g p ids).map (·.1)).Sublist ids := by
  induction ids with
  | nil => exact List.Sublist.refl _
  | cons id ids ih =>
    unfold waterOf at ih ⊢
    cases hf : g.parcels.find? id with
    | none =>
      rw [List.filterMap_cons_none hf]
      exact ih.cons id
    | some q =>
      rw [List.filterMap_cons_some hf]
      obtain rfl : q.id = id := Roll.key_of_find? hf
      by_cases ho : q.waterOwner = some p
      · simp only [List.filterMap_cons, if_pos ho]
        exact ih.cons_cons q.id
      · simp only [List.filterMap_cons, if_neg ho]
        exact ih.cons q.id

theorem mem_waterOf {g : Game} {p : PlayerId} {ids : List ParcelId} {x : ParcelId × Count} :
    x ∈ waterOf g p ids ↔
      ∃ q ∈ g.parcels.toList, q.waterOwner = some p ∧ q.id ∈ ids ∧ (q.id, q.water) = x := by
  simp only [waterOf, List.mem_filterMap, Option.ite_none_right_eq_some, Option.some.injEq]
  constructor
  · rintro ⟨q, ⟨id, hid, hf⟩, ho, hx⟩
    obtain rfl : q.id = id := Roll.key_of_find? hf
    exact ⟨q, Roll.mem_of_find? hf, ho, hid, hx⟩
  · rintro ⟨q, hq, ho, hid, hx⟩
    exact ⟨q, ⟨q.id, hid, Roll.find?_of_mem hq⟩, ho, hx⟩

def Owns (g : Game) (p : Player) (q : Parcel) : Prop :=
  q ∈ g.parcels.toList ∧ q.waterOwner = some p.id ∧ q.id ∈ p.rights.toList

theorem mem_ownedWater {g : Game} {p : Player} {x : ParcelId × Count} :
    x ∈ (ownedWater g p).toList ↔ ∃ q, Owns g p q ∧ (q.id, q.water) = x := by
  have hn : ((waterOf g p.id p.rights.toList).map (·.1)).Nodup := by
    refine (waterOf_sublist g p.id p.rights.toList).nodup ?_
    simpa [key] using Roll.nodup_keys p.rights
  rw [ownedWater_eq, Roll.mem_ofList_of_nodup hn, mem_waterOf]
  constructor
  · rintro ⟨q, hq, ho, hid, hx⟩
    exact ⟨q, ⟨hq, ho, hid⟩, hx⟩
  · rintro ⟨q, ⟨hq, ho, hid⟩, hx⟩
    exact ⟨q, hq, ho, hid, hx⟩

theorem Owns.on_ownedWater {g : Game} {p : Player} {q : Parcel} (h : Owns g p q) :
    (ownedWater g p).on q.id = q.water :=
  Plan.on_of_mem (mem_ownedWater.mpr ⟨q, h, rfl⟩)

theorem contains_ownedWater {g : Game} {p : Player} {id : ParcelId} :
    (ownedWater g p).contains id = true ↔ ∃ q, Owns g p q ∧ q.id = id := by
  rw [Roll.contains_iff]
  constructor
  · rintro ⟨x, hx, rfl⟩
    obtain ⟨q, hq, rfl⟩ := mem_ownedWater.mp hx
    exact ⟨q, hq, rfl⟩
  · rintro ⟨q, hq, rfl⟩
    exact ⟨_, mem_ownedWater.mpr ⟨q, hq, rfl⟩, rfl⟩

theorem ownedWater_size_eq_zero {g : Game} {p : Player} :
    (ownedWater g p).size = 0 ↔ ∀ q, ¬ Owns g p q := by
  rw [Roll.size, List.length_eq_zero_iff, List.eq_nil_iff_forall_not_mem]
  constructor
  · intro h q hq
    exact h _ (mem_ownedWater.mpr ⟨q, hq, rfl⟩)
  · intro h x hx
    obtain ⟨q, hq, _⟩ := mem_ownedWater.mp hx
    exact h q hq

end Watershed.Allocation
