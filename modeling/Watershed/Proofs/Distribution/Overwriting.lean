import Watershed.Proofs.Distribution.Progress

namespace Watershed

def Parcel.flooded (w : ParcelId → Count) (q : Parcel) : Parcel := { q with water := w q.id }

def Board.flooded (b : Board) (f : PlayerId → Count) (w : ParcelId → Count) : Board :=
  ⟨b.players.map (fun p => { p with water := f p.id }) fun _ => rfl, rewater w b.parcels⟩

namespace Board

variable (b : Board) (f : PlayerId → Count) (w : ParcelId → Count)

theorem entitlements_flooded : (b.flooded f w).players.toList.map (·.entitlement) =
    b.players.toList.map (·.entitlement) := by
  rw [flooded, Roll.map, List.map_map]
  rfl

theorem parcels_flooded : (b.flooded f w).parcels.toList = b.parcels.toList.map (Parcel.flooded w) := rfl

theorem unowned_flooded : (b.flooded f w).unowned = b.unowned.map (Parcel.flooded w) := List.filter_map

theorem owned_flooded : (b.flooded f w).owned = b.owned.map (Parcel.flooded w) := List.filter_map

theorem rights_map_flooded (l : List Parcel) :
    (l.map (Parcel.flooded w)).map (·.rights) = l.map (·.rights) := by
  rw [List.map_map]
  rfl

theorem dry_flooded : Plan.dry (b.flooded f w).parcels = Plan.dry b.parcels := by
  apply Roll.ext
  simp only [Plan.dry, Roll.tabulate, Roll.map, parcels_flooded, List.map_map]
  rfl

theorem zero_flooded : Shares.zero (b.flooded f w).players = Shares.zero b.players := by
  apply Roll.ext
  simp only [Shares.zero, Roll.tabulate, flooded, Roll.map, List.map_map]
  rfl

end Board

namespace Distribution

variable (b : Board) (f : PlayerId → Count) (w : ParcelId → Count) (water : Count)

theorem ofPlan_flooded (shares : Shares) (p : Plan) :
    ofPlan (b.flooded f w) shares p = ofPlan b shares p := by
  have hpour : p.pour (b.flooded f w).parcels = p.pour b.parcels :=
    rewater_rewater w p.on b.parcels
  rw [ofPlan, ofPlan, hpour]

namespace Fair

theorem whole_flooded : whole (b.flooded f w) = whole b := by
  rw [whole, whole, Board.demand, Board.demand, Board.entitlements_flooded, Board.unowned_flooded,
    Board.rights_map_flooded]

theorem ownedBy_flooded (p : PlayerId) :
    ownedBy (b.flooded f w) p = (ownedBy b p).map (Parcel.flooded w) := List.filter_map

theorem greatest_map_flooded (l : List Parcel) :
    greatest (l.map (Parcel.flooded w)) = (greatest l).map (Parcel.flooded w) := by
  induction l with
  | nil => rfl
  | cons q l ih =>
    simp only [List.map_cons, greatest, ih]
    cases greatest l with
    | none => rfl
    | some top => by_cases hlt : q.rights < top.rights <;> simp [Parcel.flooded, hlt]

theorem spread?_map_flooded (share : Count) (owned : List Parcel) :
    spread? share (owned.map (Parcel.flooded w)) = spread? share owned := by
  have hpart : ∀ whole, (fun q : Parcel => (part? share whole q).map fun n => (q.id, n)) ∘
      Parcel.flooded w = fun q => (part? share whole q).map fun n => (q.id, n) := fun _ => rfl
  simp only [spread?, Board.rights_map_flooded, List.mapM_map, hpart, greatest_map_flooded]
  refine Option.bind_congr fun parts _ => ?_
  split
  · rfl
  · cases greatest owned <;> rfl

theorem distribute?_flooded : distribute? (b.flooded f w) water = distribute? b water := by
  have hshares : ∀ whole, (b.flooded f w).players.toList.mapM (fun p =>
      (share? whole water p).map fun n => (p.id, n)) =
      b.players.toList.mapM fun p => (share? whole water p).map fun n => (p.id, n) := by
    intro whole
    rw [Board.flooded, Roll.map, List.mapM_map]
    rfl
  simp only [distribute?, whole_flooded, hshares, ownedBy_flooded, spread?_map_flooded,
    Board.dry_flooded, ofPlan_flooded]

end Fair

namespace PerParcel

theorem whole_flooded : whole (b.flooded f w) = whole b := by
  rw [whole, whole, Board.owned_flooded, Board.rights_map_flooded]

theorem amounts_flooded : amounts (b.flooded f w) water =
    (amounts b water).map fun x => (x.1.flooded w, x.2) := by
  have hamount : ∀ q : Parcel, amount (b.flooded f w) water (q.flooded w) = amount b water q := by
    intro q
    rw [amount, amount, whole_flooded]
    rfl
  simp only [amounts, Board.parcels_flooded, List.map_map, Function.comp_def, hamount]

theorem distribute?_flooded : distribute? (b.flooded f w) water = distribute? b water := by
  simp only [distribute?, mapM_amount?, amounts_flooded, List.foldlM_map, List.map_map,
    Board.zero_flooded, Board.dry_flooded, ofPlan_flooded, Option.bind_eq_bind, Option.bind_some]
  rfl

end PerParcel

namespace PlayerOnly

theorem distribute?_flooded : distribute? (b.flooded f w) water =
    (distribute? b water).map fun r => { r with parcels := rewater w b.parcels } := by
  have hwhole : whole (b.flooded f w) = whole b := by
    rw [whole, whole, Board.entitlements_flooded]
  have hshare : ∀ p : Player, share (b.flooded f w) water { p with water := f p.id } =
      share b water p := by
    intro p
    rw [share, share, hwhole]
    rfl
  have hshares : (b.flooded f w).players.tabulate (share (b.flooded f w) water) =
      b.players.tabulate (share b water) := by
    apply Roll.ext
    show ((b.players.toList.map _).map _) = _
    rw [List.map_map]
    exact List.map_congr_left fun p _ => congrArg (Prod.mk p.id) (hshare p)
  rw [distribute?_eq, distribute?_eq, hshares]
  rfl

end PlayerOnly

namespace Tiered

theorem cut_map_flooded (l : List Parcel) :
    cut (l.map (Parcel.flooded w)) = (cut l).map (List.map (Parcel.flooded w)) := by
  induction l using cut.induct with
  | case1 => simp [cut]
  | case2 top rest ih =>
    have hjoins : joins (top.flooded w) ∘ Parcel.flooded w = joins top := rfl
    rw [List.map_cons, cut, cut, List.takeWhile_map, List.dropWhile_map, hjoins, ih]
    rfl

theorem tiers_flooded : tiers (b.flooded f w).parcels =
    (tiers b.parcels).map (List.map (Parcel.flooded w)) := by
  have hsort : ∀ l : List Parcel, (l.mergeSort northFirst).map (Parcel.flooded w) =
      (l.map (Parcel.flooded w)).mergeSort northFirst :=
    fun _ => List.map_mergeSort fun _ _ _ _ => rfl
  rw [tiers, tiers, Board.parcels_flooded, ← hsort, cut_map_flooded]

theorem fill?_map_flooded (cap remaining : Count) (s : Shares) (ts : List (List Parcel)) :
    fill? cap remaining s (ts.map (List.map (Parcel.flooded w))) = fill? cap remaining s ts := by
  induction ts generalizing remaining s with
  | nil => rfl
  | cons tier ts ih =>
    rw [List.map_cons, fill?, fill?]
    simp only [List.length_map, List.foldlM_map, List.map_map, ih]
    rfl

theorem distribute?_flooded (cap : Count) :
    distribute? cap (b.flooded f w) water = distribute? cap b water := by
  simp only [distribute?, tiers_flooded, fill?_map_flooded, Board.zero_flooded, Board.dry_flooded,
    ofPlan_flooded]

end Tiered
end Distribution

namespace Distributor

theorem distribute_flooded {d : Distributor} (hd : d.writesParcels = true) (b : Board)
    (f : PlayerId → Count) (w : ParcelId → Count) (water : Count) :
    d.distribute (b.flooded f w) water = d.distribute b water := by
  cases d with
  | fair => simp only [distribute, Distribution.Fair.distribute?_flooded]
  | perParcel => simp only [distribute, Distribution.PerParcel.distribute?_flooded]
  | playerOnly => cases hd
  | tiered cap => cases cap <;> simp only [distribute, Distribution.Tiered.distribute?_flooded]

end Distributor
end Watershed
