import Watershed.Distribution.Steps
import Watershed.Proofs.Distribution.Levels
import Mathlib.Data.List.Chain
import Mathlib.Data.List.TakeWhile

namespace Watershed.Distribution.Tiered

def Precedes (p q : Parcel) : Prop :=
  q.position.y.val < p.position.y.val ∨ (p.position.y.val = q.position.y.val ∧ p.id < q.id)

instance (p q : Parcel) : Decidable (Precedes p q) := inferInstanceAs (Decidable (_ ∨ _))

theorem northFirst_iff {p q : Parcel} : northFirst p q = true ↔
    q.position.y.val < p.position.y.val ∨
      (p.position.y.val = q.position.y.val ∧ p.id.uuid.val ≤ q.id.uuid.val) := by
  simp only [northFirst, Bool.or_eq_true, Bool.and_eq_true, decide_eq_true_eq]

theorem northFirst_trans (p q r : Parcel) (hpq : northFirst p q = true)
    (hqr : northFirst q r = true) : northFirst p r = true := by
  rw [northFirst_iff] at *
  omega

theorem northFirst_total (p q : Parcel) : (northFirst p q || northFirst q p) = true := by
  rw [Bool.or_eq_true, northFirst_iff, northFirst_iff]
  omega

theorem Precedes.asymm {p q : Parcel} (h : Precedes p q) : ¬ Precedes q p := by
  rintro (hlt | ⟨heq, hid⟩)
  · rcases h with h | ⟨h, _⟩ <;> omega
  · rcases h with h | ⟨_, h⟩
    · omega
    · exact Key.asymm h hid

theorem precedes_of_northFirst {p q : Parcel} (h : northFirst p q = true) (hne : p.id ≠ q.id) :
    Precedes p q := by
  rcases northFirst_iff.mp h with hlt | ⟨heq, hle⟩
  · exact .inl hlt
  · have hval : p.id.uuid.val ≠ q.id.uuid.val := fun e => hne (ParcelId.ext e)
    exact .inr ⟨heq, Nat.lt_of_le_of_ne hle hval⟩

theorem flatten_tiers_ordered (parcels : Roll Parcel) :
    (tiers parcels).flatten.Pairwise Precedes := by
  have hids : ((tiers parcels).flatten.map (·.id)).Nodup :=
    ((flatten_tiers parcels).map _).nodup_iff.mpr (Roll.nodup_keys parcels)
  have hsorted : (tiers parcels).flatten.Pairwise fun p q => northFirst p q = true := by
    rw [tiers, flatten_cut]
    exact List.pairwise_mergeSort northFirst_trans northFirst_total _
  exact (hsorted.and (List.pairwise_map.mp hids)).imp fun h => precedes_of_northFirst h.1 h.2

theorem joins_iff {top p : Parcel} :
    joins top p = true ↔ top.position.y.val - p.position.y.val ≤ range := by
  rw [joins, decide_eq_true_eq, Coordinate.gap, range]
  omega

theorem not_joins_iff {top p : Parcel} :
    joins top p = false ↔ range < top.position.y.val - p.position.y.val := by
  rw [← Bool.not_eq_true, joins_iff, Int.not_le]

def Beyond (tier tier' : List Parcel) : Prop :=
  ∀ top ∈ tier.head?, ∀ top' ∈ tier'.head?, range < top.position.y.val - top'.position.y.val

instance (tier tier' : List Parcel) : Decidable (Beyond tier tier') :=
  inferInstanceAs (Decidable (∀ top ∈ tier.head?, _))

structure Banded (g : List (List Parcel)) : Prop where
  nonempty : ∀ tier ∈ g, tier ≠ []
  near : ∀ tier ∈ g, ∀ top ∈ tier.head?, ∀ p ∈ tier,
    top.position.y.val - p.position.y.val ≤ range
  far : g.IsChain Beyond

theorem head?_of_mem_head?_cut {l tier : List Parcel} (h : tier ∈ (cut l).head?) :
    tier.head? = l.head? := by
  cases l with
  | nil =>
    rw [cut] at h
    cases h
  | cons top rest =>
    rw [cut] at h
    obtain rfl := Option.some.inj h
    rfl

theorem near_of_mem_cut {l tier : List Parcel} (h : tier ∈ cut l) :
    ∀ top ∈ tier.head?, ∀ p ∈ tier, top.position.y.val - p.position.y.val ≤ range := by
  induction l using cut.induct with
  | case1 =>
    rw [cut] at h
    cases h
  | case2 top rest ih =>
    rw [cut, List.mem_cons] at h
    rcases h with rfl | h
    · intro top' htop p hp
      obtain rfl := Option.some.inj htop
      rcases List.mem_cons.mp hp with rfl | hp
      · simp [range]
      · exact joins_iff.mp (List.mem_takeWhile_imp hp)
    · exact ih h

theorem far_cut (l : List Parcel) : (cut l).IsChain Beyond := by
  induction l using cut.induct with
  | case1 =>
    rw [cut]
    exact .nil
  | case2 top rest ih =>
    rw [cut]
    refine ih.cons fun tier htier top' htop q hq => ?_
    obtain rfl := Option.some.inj htop
    rw [head?_of_mem_head?_cut htier] at hq
    -- the first parcel that was left over is the first that did not join
    have hleft := List.head?_dropWhile_not (joins top) rest
    rw [Option.mem_def.mp hq] at hleft
    exact not_joins_iff.mp hleft

theorem banded_cut (l : List Parcel) : Banded (cut l) :=
  ⟨fun _ => not_nil_of_mem_cut, fun _ => near_of_mem_cut, far_cut l⟩

theorem Banded.tail {tier : List Parcel} {g : List (List Parcel)} (h : Banded (tier :: g)) :
    Banded g :=
  ⟨fun t ht => h.nonempty t (List.mem_cons_of_mem _ ht),
    fun t ht => h.near t (List.mem_cons_of_mem _ ht), h.far.tail⟩

theorem Banded.joins {top : Parcel} {rest : List Parcel} {g : List (List Parcel)}
    (h : Banded ((top :: rest) :: g)) : ∀ p ∈ rest, joins top p = true := fun p hp =>
  joins_iff.mpr (h.near _ List.mem_cons_self top rfl p (List.mem_cons_of_mem _ hp))

theorem Banded.stops {top : Parcel} {rest : List Parcel} {g : List (List Parcel)}
    (h : Banded ((top :: rest) :: g)) :
    g.flatten.takeWhile (Tiered.joins top) = [] ∧
      g.flatten.dropWhile (Tiered.joins top) = g.flatten := by
  cases g with
  | nil => exact ⟨rfl, rfl⟩
  | cons tier g =>
    cases tier with
    | nil => exact absurd rfl (h.nonempty [] (by simp))
    | cons top' rest' =>
      have hfar : ¬ Tiered.joins top top' = true := by
        rw [Bool.not_eq_true, not_joins_iff]
        exact h.far.rel top rfl top' rfl
      rw [List.flatten_cons, List.cons_append]
      exact ⟨List.takeWhile_cons_of_neg hfar, List.dropWhile_cons_of_neg hfar⟩

theorem Banded.cut_flatten {g : List (List Parcel)} (h : Banded g) : cut g.flatten = g := by
  induction g with
  | nil => rw [List.flatten_nil, cut]
  | cons tier g ih =>
    cases tier with
    | nil => exact absurd rfl (h.nonempty [] List.mem_cons_self)
    | cons top rest =>
      obtain ⟨htake, hdrop⟩ := h.stops
      rw [List.flatten_cons, List.cons_append, cut, List.takeWhile_append_of_pos h.joins,
        List.dropWhile_append_of_pos h.joins, htake, hdrop, List.append_nil, ih h.tail]

def ids (g : List (List Parcel)) : List (List ParcelId) := g.map (List.map (·.id))

theorem enter_joined {done : List (List ParcelId)} {tier : List ParcelId} {top : Coordinate}
    {p : Parcel} (h : reaches top p.position.y = true) :
    Tiering.enter ⟨done ++ [tier], some top⟩ p = ⟨done ++ [tier ++ [p.id]], some top⟩ := by
  simp [Tiering.enter, h]

theorem enter_begun {done : List (List ParcelId)} {tier : List ParcelId} {top : Coordinate}
    {p : Parcel} (h : ¬ reaches top p.position.y = true) :
    Tiering.enter ⟨done ++ [tier], some top⟩ p =
      ⟨done ++ [tier] ++ [[p.id]], some p.position.y⟩ := by
  simp [Tiering.enter, h]

theorem foldl_enter (done : List (List ParcelId)) (tier : List ParcelId) (top : Parcel)
    (l : List Parcel) :
    (l.foldl Tiering.enter ⟨done ++ [tier], some top.position.y⟩).tiers =
      done ++ (tier ++ (l.takeWhile (joins top)).map (·.id)) :: ids (cut (l.dropWhile (joins top))) := by
  induction l generalizing done tier top with
  | nil => simp [ids, cut]
  | cons p l ih =>
    rw [List.foldl_cons]
    by_cases h : joins top p = true
    · rw [enter_joined h, ih, List.takeWhile_cons_of_pos h, List.dropWhile_cons_of_pos h,
        List.map_cons, List.append_assoc, List.singleton_append]
    · rw [enter_begun h, ih, List.takeWhile_cons_of_neg h, List.dropWhile_cons_of_neg h, cut]
      simp [ids]

theorem tiersInTurn_eq (parcels : Roll Parcel) : tiersInTurn parcels = ids (tiers parcels) := by
  rw [tiersInTurn, tiers]
  cases parcels.toList.mergeSort northFirst with
  | nil =>
    rw [cut]
    rfl
  | cons p l =>
    rw [List.foldl_cons, cut]
    exact foldl_enter [] [p.id] p l

structure Grouping (parcels : Roll Parcel) (g : List (List Parcel)) : Prop extends Banded g where
  once : g.flatten.Perm parcels.toList
  ordered : g.flatten.Pairwise Precedes

theorem grouping_iff {parcels : Roll Parcel} {g : List (List Parcel)} : Grouping parcels g ↔
    ((∀ tier ∈ g, tier ≠ []) ∧ (∀ tier ∈ g, ∀ top ∈ tier.head?, ∀ p ∈ tier,
      top.position.y.val - p.position.y.val ≤ range) ∧ g.IsChain Beyond) ∧
      g.flatten.Perm parcels.toList ∧ g.flatten.Pairwise Precedes :=
  ⟨fun h => ⟨⟨h.nonempty, h.near, h.far⟩, h.once, h.ordered⟩,
    fun ⟨⟨hn, hr, hf⟩, ho, hs⟩ => ⟨⟨hn, hr, hf⟩, ho, hs⟩⟩

instance (parcels : Roll Parcel) (g : List (List Parcel)) : Decidable (Grouping parcels g) :=
  decidable_of_iff _ grouping_iff.symm

theorem grouping_tiers (parcels : Roll Parcel) : Grouping parcels (tiers parcels) :=
  ⟨banded_cut _, flatten_tiers parcels, flatten_tiers_ordered parcels⟩

theorem Grouping.eq {parcels : Roll Parcel} {g g' : List (List Parcel)} (h : Grouping parcels g)
    (h' : Grouping parcels g') : g = g' := by
  have hperm : g.flatten.Perm g'.flatten := h.once.trans h'.once.symm
  have hflatten : g.flatten = g'.flatten :=
    hperm.eq_of_pairwise (fun _ _ _ _ hpq hqp => absurd hqp hpq.asymm) h.ordered h'.ordered
  rw [← h.cut_flatten, ← h'.cut_flatten, hflatten]

theorem ids_congr {g g' : List (List Parcel)} (h : g.map (List.map place) = g'.map (List.map place)) :
    ids g = ids g' := by
  have hids : ∀ g, ids g = (g.map (List.map place)).map (List.map Prod.fst) := by
    intro g
    simp [ids, place, Function.comp_def]
  rw [hids, hids, h]

theorem tiers_only_grouping (parcels : Roll Parcel) :
    ∃ g, Grouping parcels g ∧ tiersInTurn parcels = ids g ∧
      (∀ g', Grouping parcels g' → g' = g) ∧
      ∀ parcels' : Roll Parcel, parcels'.toList.map place = parcels.toList.map place →
        tiersInTurn parcels' = tiersInTurn parcels := by
  refine ⟨tiers parcels, grouping_tiers parcels, tiersInTurn_eq parcels,
    fun g' h => h.eq (grouping_tiers parcels), fun parcels' hplaces => ?_⟩
  rw [tiersInTurn_eq, tiersInTurn_eq]
  exact ids_congr (tiers_congr hplaces)

def lotAt (like : Parcel) (id : Nat) (y : Coordinate) : Parcel :=
  { like with id := ⟨.ofNat id⟩, position := { like.position with y := y } }

def poles (like : Parcel) : List (List Parcel) :=
  [[lotAt like 4 ⟨9223372036854775807, by decide, by decide⟩,
      lotAt like 5 ⟨9223372036854775807, by decide, by decide⟩,
      lotAt like 3 ⟨9223372036854775792, by decide, by decide⟩],
    [lotAt like 2 ⟨9223372036854775791, by decide, by decide⟩],
    [lotAt like 1 ⟨-9223372036854775808, by decide, by decide⟩]]

def barren : Parcel := ⟨default, "lot", "zone", default, 0, 0, none, none⟩

def flooded : Parcel :=
  ⟨default, "lot", "zone", ⟨⟨7, by decide, by decide⟩, .zero⟩, .clamp 7, .clamp 9, some ⟨.ofNat 6⟩,
    some ⟨.ofNat 6⟩⟩

theorem poles_grouped : Grouping (.ofList (poles barren).flatten) (poles barren) ∧
    tiersInTurn (.ofList (poles barren).flatten) =
      [[⟨.ofNat 4⟩, ⟨.ofNat 5⟩, ⟨.ofNat 3⟩], [⟨.ofNat 2⟩], [⟨.ofNat 1⟩]] ∧
    tiersInTurn (.ofList (poles flooded).flatten) =
      tiersInTurn (.ofList (poles barren).flatten) := by
  obtain ⟨g, _, hturn, honly, hplaces⟩ := tiers_only_grouping (.ofList (poles barren).flatten)
  have hgrouping : Grouping (.ofList (poles barren).flatten) (poles barren) := by decide +kernel
  refine ⟨hgrouping, ?_, hplaces _ (by decide +kernel)⟩
  rw [hturn, ← honly _ hgrouping]
  decide +kernel

end Watershed.Distribution.Tiered
