import Watershed.Proofs.Game.Turnover
import Watershed.Proofs.Game.Steps
import Watershed.Season.Phases

namespace Watershed

namespace Revenue

theorem add?_contains {r r' : Revenue} {p : PlayerId} {n : Decimal} (h : r.add? p n = some r')
    (id : PlayerId) : r'.contains id = true ↔ r.contains id = true ∨ p = id := by
  obtain ⟨total, _, rfl⟩ := Option.map_eq_some_iff.mp h
  simp only [Roll.contains_iff, Roll.mem_put]
  constructor
  · rintro ⟨x, rfl | ⟨hx, _⟩, rfl⟩
    · exact Or.inr rfl
    · exact Or.inl ⟨x, hx, rfl⟩
  · rintro (⟨x, hx, rfl⟩ | rfl)
    · by_cases hk : key x = p
      · exact ⟨(p, total), Or.inl rfl, hk.symm⟩
      · exact ⟨x, Or.inr ⟨hx, hk⟩, rfl⟩
    · exact ⟨(p, total), Or.inl rfl, rfl⟩

theorem foldlM_contains {m : Multipliers} {assets : List Asset} {r r' : Revenue}
    (h : assets.foldlM (fun (r : Revenue) a => do r.add? a.owner (← a.revenue? m)) r = some r')
    (id : PlayerId) :
    r'.contains id = true ↔ r.contains id = true ∨ ∃ a ∈ assets, a.owner = id := by
  induction assets generalizing r with
  | nil =>
    obtain rfl := Option.some.inj h
    simp
  | cons a assets ih =>
    obtain ⟨r₁, hr, h⟩ := Option.bind_eq_some_iff.mp (List.foldlM_cons.symm.trans h)
    obtain ⟨n, _, hr⟩ := Option.bind_eq_some_iff.mp hr
    rw [ih h, add?_contains hr]
    simp only [List.mem_cons, exists_eq_or_imp, or_assoc]

theorem byPlayer_eq_ok {m : Multipliers} {assets : List Asset} {r : Revenue} :
    byPlayer m assets = .ok r ↔ byPlayer? m assets = some r := by
  unfold byPlayer
  cases byPlayer? m assets <;> simp

theorem contains_byPlayer {m : Multipliers} {assets : List Asset} {r : Revenue}
    (h : byPlayer m assets = .ok r) (id : PlayerId) :
    r.contains id = true ↔ ∃ a ∈ assets, a.owner = id := by
  rw [foldlM_contains (byPlayer_eq_ok.mp h)]
  have hnone : (Roll.empty : Revenue).contains id = false := rfl
  simp [hnone]

def pay (r : Revenue) (id : PlayerId) (money : Decimal) : Option Decimal :=
  match r.find? id with
  | some (_, n) => money.add? n
  | none => some money

end Revenue

namespace Game

def SameMoney (g g' : Game) : Prop :=
  ∀ p ∈ g.players.toList, ∃ p' ∈ g'.players.toList, p'.id = p.id ∧ p'.money = p.money

theorem SameMoney.refl (g : Game) : SameMoney g g := fun p hp => ⟨p, hp, rfl, rfl⟩

theorem SameMoney.of_map {g g' : Game} {f : Player → Player} {h : ∀ p, key (f p) = key p}
    (hg : g'.players = g.players.map f h) (hmoney : ∀ p, (f p).money = p.money) :
    SameMoney g g' := by
  intro p hp
  exact ⟨f p, hg ▸ Roll.mem_map.mpr ⟨p, hp, rfl⟩, h p, hmoney p⟩

theorem SameMoney.of_players {g g' : Game}
    (hfrom : ∀ p' ∈ g'.players.toList, ∃ p ∈ g.players.toList, p'.id = p.id ∧ p'.money = p.money)
    (hto : ∀ p ∈ g.players.toList, ∃ p' ∈ g'.players.toList, p'.id = p.id) : SameMoney g g' := by
  intro p hp
  obtain ⟨p', hp', hid⟩ := hto p hp
  obtain ⟨p₁, hp₁, hid₁, hmoney⟩ := hfrom p' hp'
  obtain rfl := Roll.eq_of_key hp₁ hp (hid₁.symm.trans hid)
  exact ⟨p', hp', hid, hmoney⟩

theorem SameMoney.of_put {g g' : Game} {p p' : Player} (hg : g'.players = g.players.put p')
    (hp : p ∈ g.players.toList) (hid : p'.id = p.id) (hmoney : p'.money = p.money) :
    SameMoney g g' := by
  intro q hq
  rw [hg]
  by_cases hk : q.id = p.id
  · obtain rfl := Roll.eq_of_key hq hp hk
    exact ⟨p', Roll.mem_put.mpr (Or.inl rfl), hid, hmoney⟩
  · exact ⟨q, Roll.mem_put.mpr (Or.inr ⟨hq, fun e => hk (e.trans hid)⟩), rfl, rfl⟩

theorem reset_sameMoney {g : Game} {m : Move Reset} (h : g.reset = .ok m) : SameMoney g m.game := by
  obtain ⟨_, hg⟩ := reset_eq_ok h
  have hplayers : m.game.players = g.players.map (fun p => { p with water := 0 }) fun _ => rfl := by
    rw [← hg]
    rfl
  exact .of_map hplayers fun _ => rfl

theorem distribute_sameMoney {g : Game} {d : Distributor} {water : Count} {m : Move Downpour}
    (h : g.distribute d water = .ok m) : SameMoney g m.game := by
  obtain ⟨r, _, _, hg⟩ := distribute_eq_ok h
  have hplayers : m.game.players =
      g.players.map (fun p => { p with water := r.shares.of p.id }) fun _ => rfl := by rw [← hg]
  exact .of_map hplayers fun _ => rfl

theorem change_sameMoney {g : Game} {asset : AssetId} {player : PlayerId} {n : Count}
    {m : Move Change} (h : g.changeAllocation asset player n = .ok m) : SameMoney g m.game := by
  obtain ⟨p, a, hp, _, _, _, _, _, hc⟩ := changeAllocation_eq_ok h
  obtain ⟨water, hplayers, _⟩ := hc.players
  exact .of_put hplayers (Roll.mem_of_find? hp) rfl rfl

theorem deal_sameMoney {g g' : Game} {d : Dealing} (h : g.deal? d = some g') : SameMoney g g' := by
  cases d with
  | addPlayer p =>
    obtain ⟨hnew, rfl⟩ := addPlayer_eq_ok.mp (toOption_eq_some.mp h)
    intro q hq
    exact ⟨q, Roll.mem_put.mpr (Or.inr ⟨hq, Roll.find?_eq_none.mp hnew q hq⟩), rfl, rfl⟩
  | addParcel q =>
    have hs := addParcel_eq_ok (toOption_eq_some.mp h)
    refine .of_players (fun p' hp' => ?_) hs.remain
    obtain ⟨p, hp, he⟩ := hs.players p' hp'
    refine ⟨p, hp, ?_⟩
    cases he <;> exact ⟨rfl, rfl⟩
  | build id player parcel b =>
    obtain ⟨_, rfl⟩ := build_eq_ok (toOption_eq_some.mp h)
    exact fun p hp => ⟨p, hp, rfl, rfl⟩
  | transferWater parcel taker =>
    obtain ⟨m, hm, rfl⟩ := toOption_map_eq_some.mp h
    obtain ⟨q, _, _, ⟨_, rfl⟩ | ⟨_, ht⟩⟩ := transferWater_eq_ok hm
    · exact fun p hp => ⟨p, hp, rfl, rfl⟩
    · refine .of_players (fun p' hp' => ?_) ht.remain
      obtain ⟨p, hp, he⟩ := ht.players p' hp'
      refine ⟨p, hp, ?_⟩
      cases he <;> exact ⟨rfl, rfl⟩
  | transferDevelopment parcel taker =>
    obtain ⟨m, hm, rfl⟩ := toOption_map_eq_some.mp h
    obtain ⟨_, q, _, hm⟩ := transferDevelopment_eq_ok hm
    rw [← hm]
    exact fun p hp => ⟨p, hp, rfl, rfl⟩

theorem credits_pay {l : List (PlayerId × Decimal)} (hn : (l.map key).Nodup) {g g' : Game}
    (h : l.foldlM (fun (g : Game) x => g.credit x.1 x.2) g = .ok g') {p : Player}
    (hp : p ∈ g.players.toList) :
    ∃ p' ∈ g'.players.toList, p'.id = p.id ∧
      (∀ n, (p.id, n) ∈ l → p.money.add? n = some p'.money) ∧
      ((∀ n, (p.id, n) ∉ l) → p'.money = p.money) := by
  induction l generalizing g p with
  | nil =>
    obtain rfl := Except.ok.inj h
    exact ⟨p, hp, rfl, fun _ hm => (by cases hm), fun _ => rfl⟩
  | cons x l ih =>
    obtain ⟨hx, hl⟩ := List.nodup_cons.mp hn
    obtain ⟨g₁, hg, h⟩ := bind_eq_ok.mp (List.foldlM_cons.symm.trans h)
    obtain ⟨q, hq, hid, money, hmoney, rfl⟩ := credit_eq_ok_iff.mp hg
    by_cases hk : p.id = x.1
    · -- the player is paid now, and the rest of the list leaves them alone
      obtain rfl := Roll.eq_of_key hq hp (hid.trans hk.symm)
      have hrest : ∀ n, (q.id, n) ∉ l := fun n hm =>
        hx (List.mem_map.mpr ⟨_, hm, hk⟩)
      obtain ⟨p', hp', hid', _, hsame⟩ :=
        ih hl h (p := { q with money := money }) (Roll.mem_put.mpr (Or.inl rfl))
      refine ⟨p', hp', hid', fun n hm => ?_, fun hnone => absurd ?_ (hnone x.2)⟩
      · rcases List.mem_cons.mp hm with rfl | hm
        · rw [hmoney, hsame hrest]
        · exact absurd hm (hrest n)
      · rw [hk]
        exact List.mem_cons_self
    · obtain ⟨p', hp', hid', hpaid, hsame⟩ := ih hl h
        (Roll.mem_put.mpr (Or.inr ⟨hp, fun e => hk (Eq.trans e hid)⟩))
      refine ⟨p', hp', hid', fun n hm => hpaid n ?_, fun hnone => hsame fun n hm =>
        hnone n (List.mem_cons_of_mem _ hm)⟩
      rcases List.mem_cons.mp hm with rfl | hm
      · exact absurd rfl hk
      · exact hm

end Game

namespace Season

theorem payAll_pay {g g' : Game} {r : Revenue} (h : payAll g r = .ok g') {p : Player}
    (hp : p ∈ g.players.toList) :
    ∃ p' ∈ g'.players.toList, p'.id = p.id ∧ r.pay p.id p.money = some p'.money := by
  obtain ⟨p', hp', hid, hpaid, hsame⟩ := Game.credits_pay (Roll.nodup_keys r) h hp
  refine ⟨p', hp', hid, ?_⟩
  unfold Revenue.pay
  cases hf : r.find? p.id with
  | none =>
    have hnone := Roll.find?_eq_none.mp hf
    rw [hsame fun n hm => hnone _ hm rfl]
  | some x =>
    obtain ⟨id, n⟩ := x
    obtain ⟨hm, hk⟩ := Roll.find?_eq_some.mp hf
    obtain rfl : id = p.id := hk
    exact hpaid n hm

end Season
end Watershed
