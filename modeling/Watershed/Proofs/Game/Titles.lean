import Watershed.Proofs.Game.Dealing
import Watershed.Proofs.Game.Turnover

namespace Watershed

structure Title where
  id : ParcelId
  rights : Count
  waterOwner : Option PlayerId
  developer : Option PlayerId

structure Deeds where
  id : PlayerId
  entitlement : Count
  rights : Roll ParcelId

def Parcel.title (q : Parcel) : Title := ⟨q.id, q.rights, q.waterOwner, q.developer⟩

def Player.deeds (p : Player) : Deeds := ⟨p.id, p.entitlement, p.rights⟩

theorem map_title_rewater (f : ParcelId → Count) (r : Roll Parcel) :
    (rewater f r).toList.map Parcel.title = r.toList.map Parcel.title := by
  rw [rewater, Roll.map, List.map_map]
  rfl

namespace Game

structure SameTitles (g g' : Game) : Prop where
  players : g'.players.toList.map Player.deeds = g.players.toList.map Player.deeds
  parcels : g'.parcels.toList.map Parcel.title = g.parcels.toList.map Parcel.title

theorem SameTitles.refl (g : Game) : SameTitles g g := ⟨rfl, rfl⟩

theorem SameTitles.player {g g' : Game} (h : SameTitles g g') {p' : Player}
    (hp : p' ∈ g'.players.toList) : ∃ p ∈ g.players.toList, p.deeds = p'.deeds :=
  List.mem_map.mp (h.players ▸ List.mem_map_of_mem hp)

theorem SameTitles.parcel {g g' : Game} (h : SameTitles g g') {q' : Parcel}
    (hq : q' ∈ g'.parcels.toList) : ∃ q ∈ g.parcels.toList, q.title = q'.title :=
  List.mem_map.mp (h.parcels ▸ List.mem_map_of_mem hq)

theorem SameTitles.symm {g g' : Game} (h : SameTitles g g') : SameTitles g' g :=
  ⟨h.players.symm, h.parcels.symm⟩

theorem SameTitles.sum {g g' : Game} (h : SameTitles g g') (f : Title → Nat) :
    (g'.parcels.sum fun q => f q.title) = g.parcels.sum fun q => f q.title := by
  have hf := congrArg (fun l => (l.map f).sum) h.parcels
  simpa only [Roll.sum, List.map_map, Function.comp_def] using hf

end Game

def Act.Conveys : Act → Prop
  | .deal (.addPlayer _) => True
  | .deal (.addParcel _) => True
  | .deal (.transferWater _ _) => True
  | .deal (.transferDevelopment _ _) => True
  | _ => False

namespace Game

theorem reset_sameTitles {g : Game} {m : Move Reset} (h : g.reset = .ok m) :
    SameTitles g m.game := by
  obtain ⟨_, hg⟩ := reset_eq_ok h
  rw [← hg]
  refine ⟨?_, map_title_rewater (fun _ => 0) g.parcels⟩
  show (g.players.toList.map _).map _ = _
  rw [List.map_map]
  rfl

theorem distribute_sameTitles {g : Game} {d : Distributor} {water : Count} {m : Move Downpour}
    (h : g.distribute d water = .ok m) : SameTitles g m.game := by
  obtain ⟨r, hr, _, hg⟩ := distribute_eq_ok h
  obtain ⟨f, hf⟩ := Distributor.parcels_of_distribute hr
  rw [← hg]
  refine ⟨?_, ?_⟩
  · show (g.players.toList.map _).map _ = _
    rw [List.map_map]
    rfl
  · show r.parcels.toList.map _ = _
    rw [hf, map_title_rewater]

theorem change_sameTitles {g : Game} {asset : AssetId} {player : PlayerId} {n : Count}
    {m : Move Change} (h : g.changeAllocation asset player n = .ok m) : SameTitles g m.game := by
  obtain ⟨p, a, hp, _, _, _, _, _, hc⟩ := changeAllocation_eq_ok h
  obtain ⟨water, hplayers, _⟩ := hc.players
  obtain ⟨f, hparcels, _⟩ := hc.parcels
  refine ⟨?_, ?_⟩
  · rw [hplayers]
    exact Roll.map_put_of_mem (b := p) (Roll.mem_of_find? hp) rfl rfl
  · rw [hparcels, map_title_rewater]

theorem after_sameTitles {g : Game} {a : Act} (ha : ¬ a.Conveys) : SameTitles g (g.after a) := by
  refine after_of (P := SameTitles g) (.refl g) fun g' h => ?_
  cases a with
  | deal d =>
    cases d with
    | addPlayer p => exact absurd trivial ha
    | addParcel q => exact absurd trivial ha
    | build id player parcel b =>
      obtain ⟨_, rfl⟩ := build_eq_ok (toOption_eq_some.mp h)
      exact ⟨rfl, rfl⟩
    | transferWater parcel taker => exact absurd trivial ha
    | transferDevelopment parcel taker => exact absurd trivial ha
  | setRound round =>
    obtain rfl := Option.some.inj h
    exact ⟨rfl, rfl⟩
  | credit player amount =>
    obtain ⟨p, hp, money, rfl⟩ := credit_eq_ok (toOption_eq_some.mp h)
    exact ⟨Roll.map_put_of_mem (b := p) hp rfl rfl, rfl⟩
  | reset =>
    obtain ⟨m, hm, rfl⟩ := toOption_map_eq_some.mp h
    exact reset_sameTitles hm
  | distribute d water =>
    obtain ⟨m, hm, rfl⟩ := toOption_map_eq_some.mp h
    exact distribute_sameTitles hm
  | change asset player n =>
    obtain ⟨m, hm, rfl⟩ := toOption_map_eq_some.mp h
    exact change_sameTitles hm

end Game
end Watershed
