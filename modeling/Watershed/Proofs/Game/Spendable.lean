import Watershed.Proofs.Distribution.Fair
import Watershed.Proofs.Distribution.Tiered
import Watershed.Proofs.Game.Ownership

namespace Watershed

def Asset.Fed (a : Asset) : Prop :=
  a.allocated.val ≤ a.usage.val ∧ (a.divisible = false → a.allocated = 0 ∨ a.allocated = a.usage)

theorem Asset.fed_of_dry {a : Asset} (h : a.allocated = 0) : a.Fed :=
  ⟨by rw [h]; exact Nat.zero_le _, fun _ => Or.inl h⟩

def Act.Dry (_ : Game) : Act → Prop
  | .deal (.addPlayer p) => p.rights = .empty ∧ p.entitlement = 0 ∧ p.water = 0
  | .deal (.addParcel q) => q.water = 0
  | .distribute d _ => d.writesParcels = true
  | _ => True

theorem Act.Dry.plain {g : Game} {a : Act} (h : a.Dry g) : a.Plain g := by
  cases a with
  | deal d =>
    cases d with
    | addPlayer p => exact ⟨h.1, h.2.1⟩
    | addParcel q => exact trivial
    | build id player parcel b => exact trivial
    | transferWater parcel taker => exact trivial
    | transferDevelopment parcel taker => exact trivial
  | setRound round => exact trivial
  | credit player amount => exact trivial
  | reset => exact trivial
  | distribute d water => exact trivial
  | change asset player n => exact trivial

namespace Game

def waterOf (g : Game) (p : PlayerId) : Nat :=
  g.parcels.sum fun q => if q.waterOwner = some p then q.water.val else 0

structure Spendable (g : Game) : Prop where
  rightful : Rightful g
  water : ∀ p ∈ g.players.toList, p.water.val = g.waterOf p.id
  fed : ∀ a ∈ g.assets.toList, a.Fed

theorem spendable_empty : Spendable .empty := by
  refine ⟨rightful_empty, ?_, ?_⟩ <;> intro _ h <;> cases h

theorem Spendable.water_le {g : Game} (hg : Spendable g) {q : Parcel} (hq : q ∈ g.parcels.toList)
    {p : Player} (hp : p ∈ g.players.toList) (ho : q.waterOwner = some p.id) :
    q.water.val ≤ p.water.val := by
  have hle := Roll.le_sum hq (f := fun q => if q.waterOwner = some p.id then q.water.val else 0)
  rw [if_pos ho] at hle
  rw [hg.water p hp]
  exact hle

theorem Spendable.total_water {g : Game} (hg : Spendable g) :
    Count.total (g.players.toList.map (·.water)) + Count.total (g.toBoard.unowned.map (·.water)) =
      g.parcels.sum fun q => q.water.val :=
  hg.rightful.total_by_owner hg.water

theorem deal_assets {g g' : Game} {d : Dealing} (h : g.deal? d = some g') :
    ∀ a ∈ g'.assets.toList, a ∈ g.assets.toList ∨ (a.allocated = 0 ∧ g.Known a.owner ∧
      ∃ id player parcel b, d = .build id player parcel b ∧ a.nominal = b.nominal) := by
  cases d with
  | addPlayer p =>
    obtain ⟨_, rfl⟩ := addPlayer_eq_ok.mp (toOption_eq_some.mp h)
    exact fun _ => Or.inl
  | addParcel q =>
    rw [(addParcel_eq_ok (toOption_eq_some.mp h)).assets]
    exact fun _ => Or.inl
  | build id player parcel b =>
    obtain ⟨hknown, rfl⟩ := build_eq_ok (toOption_eq_some.mp h)
    intro a ha
    rcases Roll.mem_put.mp ha with rfl | ⟨ha, _⟩
    · exact Or.inr ⟨rfl, hknown, _, _, _, _, rfl, rfl⟩
    · exact Or.inl ha
  | transferWater parcel taker =>
    obtain ⟨m, hm, rfl⟩ := toOption_map_eq_some.mp h
    obtain ⟨q, _, _, ⟨_, rfl⟩ | ⟨_, ht⟩⟩ := transferWater_eq_ok hm
    · exact fun _ => Or.inl
    · rw [ht.assets]
      exact fun _ => Or.inl
  | transferDevelopment parcel taker =>
    obtain ⟨m, hm, rfl⟩ := toOption_map_eq_some.mp h
    obtain ⟨_, q, _, hm⟩ := transferDevelopment_eq_ok hm
    rw [← hm]
    exact fun _ => Or.inl

theorem deal_fed {g g' : Game} {d : Dealing} (hg : ∀ a ∈ g.assets.toList, a.Fed)
    (h : g.deal? d = some g') : ∀ a ∈ g'.assets.toList, a.Fed := by
  intro a ha
  rcases deal_assets h a ha with ha | ⟨hdry, _⟩
  · exact hg a ha
  · exact Asset.fed_of_dry hdry

theorem addPlayer_water {g g' : Game} {p : Player} (hg : Spendable g) (hw : p.water = 0)
    (h : g.addPlayer p = .ok g') : ∀ p' ∈ g'.players.toList, p'.water.val = g'.waterOf p'.id := by
  obtain ⟨hnew, rfl⟩ := addPlayer_eq_ok.mp h
  intro p' hp'
  rcases Roll.mem_put.mp hp' with rfl | ⟨hp', _⟩
  · rw [hw]
    exact (Roll.sum_eq_zero fun q hq => if_neg (hg.rightful.stranger hnew q hq)).symm
  · exact hg.water p' hp'

theorem Settled.water {g g' : Game} {q : Parcel} (hs : Settled g q g') (hg : Spendable g)
    (hw : q.water = 0) : ∀ p' ∈ g'.players.toList, p'.water.val = g'.waterOf p'.id := by
  intro p' hp'
  obtain ⟨p, hp, he⟩ := hs.players p' hp'
  have hsame : p'.id = p.id ∧ p'.water = p.water := by cases he <;> exact ⟨rfl, rfl⟩
  rw [hsame.1, hsame.2, hg.water p hp, waterOf, waterOf, hs.parcels, Roll.sum_put_new hs.new, hw,
    Count.val_zero, ite_self, Nat.add_zero]

theorem Transferred.water {g g' : Game} {q : Parcel} {taker : Option PlayerId}
    (ht : Transferred g q taker g') (hq : q ∈ g.parcels.toList) (hg : Spendable g) :
    ∀ p' ∈ g'.players.toList, p'.water.val = g'.waterOf p'.id := by
  intro p' hp'
  obtain ⟨p, hp, hp'⟩ := ht.players p' hp'
  have hold := hg.water p hp
  have hsum : g'.waterOf p.id + (if q.waterOwner = some p.id then q.water.val else 0) =
      g.waterOf p.id + if taker = some p.id then q.water.val else 0 := by
    rw [waterOf, ht.parcels]
    exact Roll.sum_put_of_mem hq rfl
  cases hp' with
  | seller e hs hb he =>
    have hle := hg.water_le hq hp hs
    rw [if_pos hs, if_neg hb] at hsum
    show p.water.val - q.water.val = g'.waterOf p.id
    omega
  | buyer e w hs hb he hw =>
    rw [if_neg hs, if_pos hb] at hsum
    show w.val = g'.waterOf p.id
    omega
  | other hs hb =>
    rw [if_neg hs, if_neg hb] at hsum
    omega

theorem transferDevelopment_water {g : Game} {id : ParcelId} {taker : Option PlayerId}
    {m : Move Unit} (hg : Spendable g) (h : g.transferDevelopment id taker = .ok m) :
    ∀ p ∈ m.game.players.toList, p.water.val = m.game.waterOf p.id := by
  obtain ⟨_, q, hq, hm⟩ := transferDevelopment_eq_ok h
  rw [← hm]
  intro p hp
  have hput := Roll.sum_put_same (a := { q with developer := taker }) hq rfl
    (f := fun q => if q.waterOwner = some p.id then q.water.val else 0) rfl
  exact (hg.water p hp).trans hput.symm

theorem waterOf_dryUp (g : Game) (p : PlayerId) : g.dryUp.waterOf p = 0 := by
  simp [waterOf, dryUp, Roll.sum_map, Roll.sum_zero]

theorem reset_spendable {g : Game} {m : Move Reset} (hg : Spendable g) (h : g.reset = .ok m) :
    Spendable m.game := by
  have hr := hg.rightful.of_sameTitles (reset_sameTitles h)
  obtain ⟨_, hm⟩ := reset_eq_ok h
  rw [← hm] at hr ⊢
  refine ⟨hr, fun p hp => ?_, fun a ha => ?_⟩
  · obtain ⟨p, _, rfl⟩ := List.mem_map.mp hp
    exact (waterOf_dryUp g p.id).symm
  · obtain ⟨a, _, rfl⟩ := List.mem_map.mp ha
    exact Asset.fed_of_dry rfl

/-- Rain lies on the parcels as it was shared out, and never more of it than has fallen or than
there are rights: rounding up gives no player more than the player's entitlement. -/
theorem laid_of_distribute {g : Game} {d : Distributor} {water : Count} {r : Distribution}
    (hg : Rightful g) (hd : d.writesParcels = true) (h : d.distribute g.toBoard water = .ok r) :
    ∃ amounts, Distribution.Laid g.toBoard r amounts ∧
      amounts.whole ≤ max g.allRights water.val := by
  rcases Distributor.distribute_eq_ok h with ⟨_, h⟩ | ⟨_, h⟩ | ⟨rfl, _⟩ | ⟨cap, _, h⟩
  · have hle := Distribution.Fair.whole_amounts_le g.toBoard water
    have hrights := hg.total_demand
    rw [Board.demand, Count.total_append, Roll.total_map] at hrights
    exact ⟨_, Distribution.Fair.laid hg.entitlement h, by omega⟩
  · have hle := Distribution.PerParcel.whole_amounts_le g.toBoard water
    exact ⟨_, Distribution.PerParcel.laid h, hle.trans (Nat.le_max_right _ _)⟩
  · cases hd
  · have hle := Distribution.Tiered.whole_poured_le cap water (Distribution.Tiered.tiers g.parcels)
    exact ⟨_, Distribution.Tiered.laid h, hle.trans (Nat.le_max_right _ _)⟩

theorem distribute_spendable {g : Game} {d : Distributor} {water : Count} {m : Move Downpour}
    (hg : Spendable g) (hd : d.writesParcels = true) (h : g.distribute d water = .ok m) :
    Spendable m.game := by
  have hr := hg.rightful.of_sameTitles (distribute_sameTitles h)
  obtain ⟨r, hdist, _, hm⟩ := distribute_eq_ok h
  obtain ⟨amounts, hl, _⟩ := laid_of_distribute hg.rightful hd hdist
  rw [← hm] at hr ⊢
  refine ⟨hr, fun p' hp' => ?_, hg.fed⟩
  obtain ⟨p, hp, rfl⟩ := List.mem_map.mp hp'
  exact hl.share_eq hp

theorem sum_owned_amounts {g : Game} {p : Player} {l : List (ParcelId × Count)} (id : PlayerId)
    (hl : ∀ x ∈ l, ∃ q, Allocation.Owns g p q ∧ q.id = x.1) :
    (g.parcels.sum fun q => if q.waterOwner = some id then amountAt l q.id else 0) =
      if p.id = id then Count.total (l.map (·.2)) else 0 := by
  rw [← sum_amounts_if]
  refine Roll.sum_amountAt (w := fun _ => p.id = id) fun x hx => ?_
  obtain ⟨q, ho, hid⟩ := hl x hx
  exact ⟨q, ho.1, hid, by rw [ho.2.1, Option.some.injEq]⟩

theorem change_spendable {g : Game} {asset : AssetId} {player : PlayerId} {n : Count}
    {m : Move Change} (hg : Spendable g) (h : g.changeAllocation asset player n = .ok m) :
    Spendable m.game := by
  have hr := hg.rightful.of_sameTitles (change_sameTitles h)
  obtain ⟨p, a, hp, ha, _, husage, hdivisible, hcurrent, hc⟩ := changeAllocation_eq_ok h
  have hp := Roll.mem_of_find? hp
  obtain ⟨water, hplayers, hspent⟩ := hc.players
  obtain ⟨f, hparcels, hf⟩ := hc.parcels
  have hsum : ∀ id, m.game.waterOf id +
      (g.parcels.sum fun q => if q.waterOwner = some id then amountAt m.result.drawn q.id else 0) =
      g.waterOf id + g.parcels.sum fun q =>
        if q.waterOwner = some id then amountAt m.result.returned q.id else 0 := by
    intro id
    rw [waterOf, hparcels, sum_rewater, ← Roll.sum_add, waterOf, ← Roll.sum_add]
    refine Roll.sum_congr fun q hq => ?_
    dsimp only
    split
    · exact hf q hq
    · rfl
  have hdrawn := fun id => sum_owned_amounts (l := m.result.drawn) id fun x hx => by
    obtain ⟨q, ho, hid, _⟩ := hc.sound.drawnOwn x hx
    exact ⟨q, ho, hid⟩
  have hreturned := fun id => sum_owned_amounts id hc.sound.returnedOwn
  refine ⟨hr, fun p' hp' => ?_, fun a' ha' => ?_⟩
  · rw [hplayers] at hp'
    rcases Roll.mem_put.mp hp' with rfl | ⟨hp', hne⟩
    · have hsum := hsum p.id
      rw [hdrawn, hreturned, if_pos rfl, if_pos rfl] at hsum
      have hold := hg.water p hp
      have hspent : water.val + Count.total (m.result.drawn.map (·.2)) =
          p.water.val + Count.total (m.result.returned.map (·.2)) := hspent
      show water.val = m.game.waterOf p.id
      omega
    · have hsum := hsum p'.id
      have hne : ¬ p.id = p'.id := fun e => hne e.symm
      rw [hdrawn, hreturned, if_neg hne, if_neg hne] at hsum
      rw [hg.water p' hp']
      exact hsum.symm
  · rw [hc.assets] at ha'
    rcases Roll.mem_put.mp ha' with rfl | ⟨ha', _⟩
    · show m.result.current.val ≤ a.usage.val ∧
        (a.divisible = false → m.result.current = 0 ∨ m.result.current = a.usage)
      rw [hcurrent]
      exact ⟨husage, hdivisible⟩
    · exact hg.fed a' ha'

theorem after_spendable {g : Game} {a : Act} (ha : a.Dry g) (hg : Spendable g) :
    Spendable (g.after a) := by
  refine after_of hg fun g' h => ?_
  have hr : Rightful g' := by
    have hafter := after_rightful ha.plain hg.rightful
    rwa [after, h] at hafter
  cases a with
  | deal d =>
    refine ⟨hr, ?_, deal_fed hg.fed h⟩
    cases d with
    | addPlayer p => exact addPlayer_water hg ha.2.2 (toOption_eq_some.mp h)
    | addParcel q => exact (addParcel_eq_ok (toOption_eq_some.mp h)).water hg ha
    | build id player parcel b =>
      obtain ⟨_, rfl⟩ := build_eq_ok (toOption_eq_some.mp h)
      exact hg.water
    | transferWater parcel taker =>
      obtain ⟨m, hm, rfl⟩ := toOption_map_eq_some.mp h
      obtain ⟨q, hq, _, ⟨_, rfl⟩ | ⟨_, ht⟩⟩ := transferWater_eq_ok hm
      · exact hg.water
      · exact ht.water hq hg
    | transferDevelopment parcel taker =>
      obtain ⟨m, hm, rfl⟩ := toOption_map_eq_some.mp h
      exact transferDevelopment_water hg hm
  | setRound round =>
    obtain rfl := Option.some.inj h
    exact ⟨hr, hg.water, hg.fed⟩
  | credit player amount =>
    obtain ⟨p, hp, money, rfl⟩ := credit_eq_ok (toOption_eq_some.mp h)
    refine ⟨hr, fun p' hp' => ?_, hg.fed⟩
    rcases Roll.mem_put.mp hp' with rfl | ⟨hp', _⟩
    · exact hg.water p hp
    · exact hg.water p' hp'
  | reset =>
    obtain ⟨m, hm, rfl⟩ := toOption_map_eq_some.mp h
    exact reset_spendable hg hm
  | distribute d water =>
    obtain ⟨m, hm, rfl⟩ := toOption_map_eq_some.mp h
    exact distribute_spendable hg ha hm
  | change asset player n =>
    obtain ⟨m, hm, rfl⟩ := toOption_map_eq_some.mp h
    exact change_spendable hg hm

theorem Spendable.run {g g' : Game} (hg : Spendable g) (h : Run (fun g a => a.Dry g) g g') :
    Spendable g' :=
  h.invariant (fun _ _ ha hg => after_spendable ha hg) hg

theorem Rightful.ownedWater {g : Game} (hg : Rightful g) {p : Player} (hp : p ∈ g.players.toList) :
    Allocation.ownedWater g p =
      (g.parcels.filter fun q => q.waterOwner = some p.id).tabulate (·.water) := by
  refine Roll.ext_mem fun x => ?_
  rw [Allocation.mem_ownedWater, Roll.tabulate, Roll.mem_map]
  simp only [Roll.filter, List.mem_filter, decide_eq_true_eq, Allocation.Owns]
  constructor
  · rintro ⟨q, ⟨hq, ho, _⟩, hx⟩
    exact ⟨q, ⟨hq, ho⟩, hx⟩
  · rintro ⟨q, ⟨hq, ho⟩, hx⟩
    exact ⟨q, ⟨hq, ho, (hg.rights p hp q.id).mpr ⟨q, hq, rfl, ho⟩⟩, hx⟩

theorem Spendable.ownedWater {g : Game} (hg : Spendable g) {p : Player}
    (hp : p ∈ g.players.toList) : (Allocation.ownedWater g p).water = p.water.val := by
  rw [hg.rightful.ownedWater hp, Plan.water, hg.water p hp, waterOf]
  refine Roll.sum_map.trans (Roll.total_map.symm.trans ?_)
  exact Roll.total_filter.trans (by simp only [decide_eq_true_eq])

theorem check_ne_exhausted {a : Asset} {p : Player} {n : Count} {id : PlayerId} {k : Count} :
    Allocation.check a p n ≠ .error (.exhausted id k) := by
  unfold Allocation.check
  split
  · simp
  split
  · simp
  split <;> simp

theorem increase_eq_exhausted {g : Game} {a : Asset} {p : Player} {n : Count} {id : PlayerId}
    {k : Count} (h : Allocation.increase g a p n = .error (.exhausted id k)) :
    (n.subDownTo a.allocated).val ≤ p.water.val ∧
      Allocation.draw (Allocation.ownedWater g p) a.parcel (n.subDownTo a.allocated) = .error k := by
  simp only [Allocation.increase] at h
  split at h
  · cases h
  rename_i hle
  refine ⟨Nat.not_lt.mp hle, ?_⟩
  rcases bind_eq_error.mp h with h | ⟨_, _, h⟩
  · obtain ⟨_, h, he⟩ := mapError_eq_error.mp h
    cases he
    exact h
  · cases h

theorem decrease_ne_exhausted {g : Game} {a : Asset} {p : Player} {n : Count} {id : PlayerId}
    {k : Count} : Allocation.decrease g a p n ≠ .error (.exhausted id k) := by
  simp only [Allocation.decrease]
  split
  · simp
  split <;> simp

theorem commit_ne_exhausted {g : Game} {a : Asset} {p : Player} {d : Allocation.Proposal}
    {id : PlayerId} {k : Count} : Allocation.commit g a p d ≠ .error (.exhausted id k) := by
  intro h
  rcases bind_eq_error.mp h with h | ⟨_, _, h⟩
  · obtain ⟨_, _, he⟩ := mapError_eq_error.mp h
    cases he
  · cases h

theorem Spendable.not_exhausted {g : Game} (hg : Spendable g) {asset : AssetId} {player : PlayerId}
    {n : Count} {id : PlayerId} {k : Count} :
    g.changeAllocation asset player n ≠ .error (.exhausted id k) := by
  intro h
  rw [changeAllocation_eq] at h
  split at h
  · cases h
  · cases h
  rename_i p a hp _
  rcases bind_eq_error.mp h with h | ⟨_, _, h⟩
  · exact check_ne_exhausted h
  split at h
  · cases h
  rcases bind_eq_error.mp h with h | ⟨_, _, h⟩
  · unfold Allocation.propose at h
    split at h
    · obtain ⟨hle, hdraw⟩ := increase_eq_exhausted h
      have hlt := Allocation.draw_eq_error hdraw
      rw [hg.ownedWater (Roll.mem_of_find? hp)] at hlt
      omega
    · exact decrease_ne_exhausted h
  · exact commit_ne_exhausted h

end Game
end Watershed
