import Watershed.Proofs.Allocation.Answer
import Watershed.Proofs.Game.Spendable
import Watershed.Proofs.Game.Volume

namespace Watershed.Game

def Owned (g : Game) : Prop := ∀ a ∈ g.assets.toList, g.Known a.owner

theorem owned_empty : Owned .empty := by
  intro _ h
  cases h

theorem deal_known {g g' : Game} {d : Dealing} {id : PlayerId} (hk : g.Known id)
    (h : g.deal? d = some g') : g'.Known id := by
  obtain ⟨p, hp, rfl⟩ := hk
  cases d with
  | addPlayer p' =>
    obtain ⟨hnew, rfl⟩ := addPlayer_eq_ok.mp (toOption_eq_some.mp h)
    exact ⟨p, Roll.mem_put.mpr (Or.inr ⟨hp, Roll.find?_eq_none.mp hnew p hp⟩), rfl⟩
  | addParcel q => exact (addParcel_eq_ok (toOption_eq_some.mp h)).remain p hp
  | build id player parcel b =>
    obtain ⟨_, rfl⟩ := build_eq_ok (toOption_eq_some.mp h)
    exact ⟨p, hp, rfl⟩
  | transferWater parcel taker =>
    obtain ⟨m, hm, rfl⟩ := toOption_map_eq_some.mp h
    obtain ⟨q, _, _, ⟨_, rfl⟩ | ⟨_, ht⟩⟩ := transferWater_eq_ok hm
    · exact ⟨p, hp, rfl⟩
    · exact ht.remain p hp
  | transferDevelopment parcel taker =>
    obtain ⟨m, hm, rfl⟩ := toOption_map_eq_some.mp h
    obtain ⟨_, q, _, hm⟩ := transferDevelopment_eq_ok hm
    rw [← hm]
    exact ⟨p, hp, rfl⟩

theorem after_owned {g : Game} {a : Act} (hg : Owned g) : Owned (g.after a) := by
  refine after_of hg fun g' h => ?_
  have hsame : ¬ a.Conveys → SameTitles g g' := fun ha => after_eq h ▸ after_sameTitles ha
  intro x' hx'
  cases a with
  | deal d =>
    refine deal_known ?_ h
    rcases deal_assets h x' hx' with hx | ⟨_, hk, _⟩
    · exact hg x' hx
    · exact hk
  | setRound round =>
    obtain rfl := Option.some.inj h
    exact hg x' hx'
  | credit player amount =>
    refine (hsame id).known ?_
    obtain ⟨p, _, money, rfl⟩ := credit_eq_ok (toOption_eq_some.mp h)
    exact hg x' hx'
  | reset =>
    refine (hsame id).known ?_
    obtain ⟨m, hm, rfl⟩ := toOption_map_eq_some.mp h
    obtain ⟨_, hm⟩ := reset_eq_ok hm
    rw [← hm] at hx'
    obtain ⟨x, hx, rfl⟩ := List.mem_map.mp hx'
    exact hg x hx
  | distribute d water =>
    refine (hsame id).known ?_
    obtain ⟨m, hm, rfl⟩ := toOption_map_eq_some.mp h
    obtain ⟨_, _, _, hm⟩ := distribute_eq_ok hm
    rw [← hm] at hx'
    exact hg x' hx'
  | change asset player n =>
    refine (hsame id).known ?_
    obtain ⟨m, hm, rfl⟩ := toOption_map_eq_some.mp h
    obtain ⟨p, x, _, hx, _, _, _, _, hc⟩ := changeAllocation_eq_ok hm
    rw [hc.assets] at hx'
    rcases Roll.mem_put.mp hx' with rfl | ⟨hx', _⟩
    · exact hg x (Roll.mem_of_find? hx)
    · exact hg x' hx'

theorem Owned.run {admits : Game → Act → Prop} {g g' : Game} (hg : Owned g)
    (h : Run admits g g') : Owned g' :=
  h.invariant (fun _ _ _ hg => after_owned hg) hg

theorem SameTitles.allRights {g g' : Game} (h : SameTitles g g') : g'.allRights = g.allRights :=
  h.sum fun t => t.rights.val

theorem deal_allRights {g g' : Game} {d : Dealing} (h : g.deal? d = some g') :
    g.allRights ≤ g'.allRights := by
  have htrade : (Act.deal d).Trade → g'.allRights = g.allRights := fun hd =>
    after_eq (a := .deal d) h ▸ trade_allRights hd
  cases d with
  | addPlayer p =>
    obtain ⟨_, rfl⟩ := addPlayer_eq_ok.mp (toOption_eq_some.mp h)
    exact Nat.le_refl _
  | addParcel q =>
    have hs := addParcel_eq_ok (toOption_eq_some.mp h)
    rw [Game.allRights, Game.allRights, hs.parcels, Roll.sum_put_new hs.new]
    exact Nat.le_add_right _ _
  | build id player parcel b =>
    obtain ⟨_, rfl⟩ := build_eq_ok (toOption_eq_some.mp h)
    exact Nat.le_refl _
  | transferWater parcel taker => exact Nat.le_of_eq (htrade trivial).symm
  | transferDevelopment parcel taker => exact Nat.le_of_eq (htrade trivial).symm

theorem deal_volume {g g' : Game} {d : Dealing} (hd : (Act.deal d).Dry g)
    (h : g.deal? d = some g') : g'.volume ≤ g.volume := by
  obtain ⟨_, hl, hs⟩ := deal_frame h
  have horderly : d.Orderly g → g'.volume ≤ g.volume := fun ho =>
    Nat.le_of_eq (Entered.of_holding hl (hs ho)).volume
  cases d with
  | addPlayer p => exact horderly trivial
  | addParcel q => exact horderly hd
  | build id player parcel b =>
    obtain ⟨_, rfl⟩ := build_eq_ok (toOption_eq_some.mp h)
    -- an asset that was there under the same identifier takes its water with it
    have hput := Roll.sum_put (f := fun x : Asset => x.allocated.val) (r := g.assets)
      (a := ⟨id, b.name, b.kind, b.level, parcel, player, b.usage, 0, b.divisible, b.nominal⟩)
    rw [Count.val_zero, Nat.add_zero] at hput
    exact Nat.add_le_add_left (hput ▸ Nat.le_add_right _ _) _
  | transferWater parcel taker => exact horderly trivial
  | transferDevelopment parcel taker => exact horderly trivial

theorem change_volume {g : Game} {asset : AssetId} {player : PlayerId} {n : Count}
    {m : Move Change} (h : g.changeAllocation asset player n = .ok m) :
    m.game.volume ≤ g.volume := by
  have hv := (change_entered h).volume
  rw [rained_change] at hv
  omega

def Idle (g : Game) : Prop := ∀ a ∈ g.assets.toList, a.allocated = 0

theorem reset_idle {g : Game} {m : Move Reset} (h : g.reset = .ok m) : Idle m.game := by
  obtain ⟨_, hm⟩ := reset_eq_ok h
  rw [← hm]
  intro a ha
  obtain ⟨a, _, rfl⟩ := List.mem_map.mp ha
  rfl

theorem deal_idle {g g' : Game} {d : Dealing} (hg : Idle g) (h : g.deal? d = some g') :
    Idle g' := by
  intro a ha
  rcases deal_assets h a ha with ha | ⟨hdry, _⟩
  · exact hg a ha
  · exact hdry

theorem distribute_volume {g : Game} {d : Distributor} {water : Count} {m : Move Downpour}
    (hg : Rightful g) (hi : Idle g) (hd : d.writesParcels = true)
    (h : g.distribute d water = .ok m) : m.game.volume ≤ max m.game.allRights water.val := by
  have hrights := (distribute_sameTitles h).allRights
  obtain ⟨r, hdist, _, hm⟩ := distribute_eq_ok h
  obtain ⟨amounts, hl, hle⟩ := laid_of_distribute hg hd hdist
  have hassets : (g.assets.sum fun a => a.allocated.val) = 0 :=
    Roll.sum_eq_zero fun a ha => congrArg Count.val (hi a ha)
  rw [hrights, ← hm]
  show (r.parcels.sum fun q => q.water.val) + (g.assets.sum fun a => a.allocated.val) ≤ _
  rw [hl.whole_eq, hassets]
  exact hle

end Watershed.Game
