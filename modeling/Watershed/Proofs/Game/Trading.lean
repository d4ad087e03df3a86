import Watershed.Proofs.Game.Spendable
import Watershed.Proofs.Game.Steps
import Watershed.Proofs.Game.Volume

namespace Watershed

def transfers (trades : List (ParcelId × Option PlayerId)) : List Act :=
  trades.map fun x => .deal (.transferWater x.1 x.2)

def Parcel.land (q : Parcel) : Parcel := { q with waterOwner := none }

def Player.person (p : Player) : Player := { p with entitlement := 0, water := 0, rights := .empty }

namespace Game

structure Traded (g g' : Game) : Prop where
  round : g'.round = g.round
  assets : g'.assets = g.assets
  ledger : g'.ledger = g.ledger
  players : g'.players.toList.map Player.person = g.players.toList.map Player.person
  parcels : g'.parcels.toList.map Parcel.land = g.parcels.toList.map Parcel.land

variable {g g' : Game}

theorem Traded.refl (g : Game) : Traded g g := ⟨rfl, rfl, rfl, rfl, rfl⟩

theorem Traded.symm (h : Traded g g') : Traded g' g :=
  ⟨h.round.symm, h.assets.symm, h.ledger.symm, h.players.symm, h.parcels.symm⟩

theorem Traded.trans {g'' : Game} (h : Traded g g') (h' : Traded g' g'') : Traded g g'' :=
  ⟨h'.round.trans h.round, h'.assets.trans h.assets, h'.ledger.trans h.ledger,
    h'.players.trans h.players, h'.parcels.trans h.parcels⟩

theorem Traded.sum (h : Traded g g') (f : Parcel → Nat) :
    (g'.parcels.sum fun q => f q.land) = g.parcels.sum fun q => f q.land := by
  have hsum := congrArg (fun l => (l.map f).sum) h.parcels
  simpa only [Roll.sum, List.map_map, Function.comp_def] using hsum

theorem Traded.volume (h : Traded g g') : g'.volume = g.volume := by
  rw [Game.volume, Game.volume, h.assets]
  exact congrArg (· + _) (h.sum fun q => q.water.val)

theorem Traded.allRights (h : Traded g g') : g'.allRights = g.allRights :=
  h.sum fun q => q.rights.val

theorem Traded.waters (h : Traded g g') :
    g'.parcels.toList.map (fun q => (q.id, q.water)) =
      g.parcels.toList.map fun q => (q.id, q.water) := by
  have hmap := congrArg (List.map fun q : Parcel => (q.id, q.water)) h.parcels
  simpa only [List.map_map, Function.comp_def, Parcel.land] using hmap

theorem Retitled.person {q : Parcel} {taker : Option PlayerId} {p p' : Player}
    (h : Retitled q taker p p') : p'.person = p.person := by
  cases h <;> rfl

theorem Transferred.traded {q : Parcel} {taker : Option PlayerId} (h : Transferred g q taker g')
    (hq : q ∈ g.parcels.toList) : Traded g g' := by
  refine ⟨h.round, h.assets, h.ledger,
    Roll.map_eq_map (f := Player.person) (fun _ => rfl) (fun p' hp' => ?_) fun p hp => ?_, ?_⟩
  · obtain ⟨p, hp, hr⟩ := h.players p' hp'
    exact ⟨p, hp, hr.person.symm⟩
  · obtain ⟨p', hp', hid⟩ := h.remain p hp
    obtain ⟨p₁, hp₁, hr⟩ := h.players p' hp'
    have hid₁ : p'.id = p₁.id := by cases hr <;> rfl
    obtain rfl := Roll.eq_of_key hp₁ hp (hid₁.symm.trans hid)
    exact ⟨p', hp', hr.person⟩
  · rw [h.parcels]
    exact Roll.map_put_of_mem (b := q) hq rfl rfl

theorem transferWater_traded {id : ParcelId} {taker : Option PlayerId} {m : Move Unit}
    (h : g.transferWater id taker = .ok m) : Traded g m.game := by
  obtain ⟨q, hq, _, ⟨_, rfl⟩ | ⟨_, ht⟩⟩ := transferWater_eq_ok h
  · exact .refl _
  · exact ht.traded hq

theorem transfers_traded (g : Game) (trades : List (ParcelId × Option PlayerId)) :
    Traded g (g.afterAll (transfers trades)) := by
  induction trades generalizing g with
  | nil => exact .refl g
  | cons x trades ih =>
    refine Traded.trans ?_ (ih (g.after (.deal (.transferWater x.1 x.2))))
    apply after_of (P := Traded g) (.refl g)
    intro g' h
    obtain ⟨m, hm, rfl⟩ := toOption_map_eq_some.mp h
    exact transferWater_traded hm

theorem Spendable.transfers (hg : Spendable g) (trades : List (ParcelId × Option PlayerId)) :
    Spendable (g.afterAll (transfers trades)) := by
  induction trades generalizing g with
  | nil => exact hg
  | cons x trades ih =>
    apply ih
    exact after_spendable trivial hg

theorem Traded.parcels_eq (h : Traded g g')
    (ho : ∀ q ∈ g.parcels.toList, ∀ q' ∈ g'.parcels.toList, q.id = q'.id →
      q.waterOwner = q'.waterOwner) : g.parcels = g'.parcels := by
  have hland : ∀ q ∈ g.parcels.toList, ∀ q' ∈ g'.parcels.toList, q.land = q'.land → q = q' := by
    intro q hq q' hq' hl
    have hid : q.id = q'.id := by injection hl
    have howner := ho q hq q' hq' hid
    obtain ⟨⟩ := q
    obtain ⟨⟩ := q'
    simp_all [Parcel.land]
  exact Roll.eq_of_map_eq h.parcels hland

theorem Rightful.rights_eq (hg : Rightful g) (hg' : Rightful g') (h : g.parcels = g'.parcels)
    {p p' : Player} (hp : p ∈ g.players.toList) (hp' : p' ∈ g'.players.toList) (hid : p.id = p'.id) :
    p.rights = p'.rights := by
  apply Roll.ext_mem
  intro id
  rw [hg.rights p hp, hg'.rights p' hp', hid]
  simp only [Names, h]

theorem Spendable.players_eq (hg : Spendable g) (hg' : Spendable g') (ht : Traded g g')
    (h : g.parcels = g'.parcels) : g.players = g'.players := by
  have hperson : ∀ p ∈ g.players.toList, ∀ p' ∈ g'.players.toList, p.person = p'.person → p = p' := by
    intro p hp p' hp' hl
    have hid : p.id = p'.id := by injection hl
    have hrights := hg.rightful.rights_eq hg'.rightful h hp hp' hid
    have hentitlement : p.entitlement = p'.entitlement := by
      apply Count.ext
      rw [hg.rightful.entitlement p hp, hg'.rightful.entitlement p' hp', rightsOf, rightsOf, h, hid]
    have hwater : p.water = p'.water := by
      apply Count.ext
      rw [hg.water p hp, hg'.water p' hp', waterOf, waterOf, h, hid]
    obtain ⟨⟩ := p
    obtain ⟨⟩ := p'
    simp_all [Player.person]
  exact Roll.eq_of_map_eq ht.players hperson

theorem Spendable.eq_of_parcels (hg : Spendable g) (hg' : Spendable g') (h : Traded g g')
    (hparcels : g.parcels = g'.parcels) : g = g' := by
  have hplayers := hg.players_eq hg' h hparcels
  have hround := h.round
  have hassets := h.assets
  have hledger := h.ledger
  obtain ⟨⟨_, _⟩, _, _, _⟩ := g
  obtain ⟨⟨_, _⟩, _, _, _⟩ := g'
  simp_all

theorem Spendable.transferWater (hg : Spendable g) {id : ParcelId} {taker : Option PlayerId}
    {m : Move Unit} (h : g.transferWater id taker = .ok m) : Spendable m.game := by
  have hafter := after_spendable (a := .deal (.transferWater id taker)) trivial hg
  rwa [after_eq (a := .deal (.transferWater id taker)) (toOption_map_eq_some.mpr ⟨m, h, rfl⟩)]
    at hafter

theorem Transferred.room {q : Parcel} {taker : Option PlayerId} (hg : Spendable g)
    (hq : q ∈ g.parcels.toList) (ht : Transferred g q taker g') {p : Player}
    (hp : p ∈ g'.players.toList) (ho : q.waterOwner = some p.id) :
    p.entitlement.val + q.rights.val < 18446744073709551616 ∧
      p.water.val + q.water.val < 18446744073709551616 := by
  obtain ⟨p₀, hp₀, hr⟩ := ht.players p hp
  cases hr with
  | seller e hs hb he =>
    have hle := hg.water_le hq hp₀ hs
    have hentitlement := p₀.entitlement.val_lt
    have hwater := p₀.water.val_lt
    simp only [Count.val_subDownTo]
    omega
  | buyer e w hs hb he hw => exact absurd ho hs
  | other hs hb => exact absurd ho hs

theorem Transferred.back_ok {q : Parcel} {taker : Option PlayerId} (hg : Spendable g)
    (hg' : Spendable g') (hq : q ∈ g.parcels.toList) (ht : Transferred g q taker g') :
    ∃ m, g'.transferWater q.id q.waterOwner = .ok m := by
  have hq' : { q with waterOwner := taker } ∈ g'.parcels.toList := by
    rw [ht.parcels]
    exact Roll.mem_put.mpr (Or.inl rfl)
  have hknown : ∀ id, q.waterOwner = some id → g'.Known id := by
    intro id ho
    obtain ⟨p, hp, rfl⟩ := hg.rightful.waterOwner q hq id ho
    exact ht.remain p hp
  cases h : g'.transferWater q.id q.waterOwner with
  | ok m => exact ⟨m, rfl⟩
  | error e =>
    obtain ⟨_, _, p, hp, ho, hlarge⟩ := (hg'.rightful.transferWater_eq_error hq' hknown).mp h
    have hroom := ht.room hg hq hp ho
    dsimp only at hlarge
    omega

theorem Spendable.transfer_back (hg : Spendable g) {q : Parcel} (hq : q ∈ g.parcels.toList)
    {taker : Option PlayerId} {m : Move Unit} (h : g.transferWater q.id taker = .ok m) :
    ∃ m', m.game.transferWater q.id q.waterOwner = .ok m' ∧ m'.game = g := by
  have hg' := hg.transferWater h
  obtain ⟨q₀, hq₀, hid, ⟨ho, hm⟩ | ⟨ho, ht⟩⟩ := transferWater_eq_ok h
  · obtain rfl := Roll.eq_of_key hq₀ hq hid
    rw [← hm, ho]
    exact ⟨m, h, hm.symm⟩
  obtain rfl := Roll.eq_of_key hq₀ hq hid
  obtain ⟨m', hback⟩ := ht.back_ok hg hg' hq
  refine ⟨m', hback, ?_⟩
  have hq' : { q₀ with waterOwner := taker } ∈ m.game.parcels.toList := by
    rw [ht.parcels]
    exact Roll.mem_put.mpr (Or.inl rfl)
  have hparcels : m'.game.parcels = g.parcels := by
    obtain ⟨q₁, hq₁, hid₁, ⟨ho₁, _⟩ | ⟨_, ht₁⟩⟩ := transferWater_eq_ok hback
    · obtain rfl := Roll.eq_of_key hq₁ hq' hid₁
      exact absurd ho₁.symm ho
    · obtain rfl := Roll.eq_of_key hq₁ hq' hid₁
      rw [ht₁.parcels, ht.parcels]
      exact Roll.put_back (a := { q₀ with waterOwner := taker }) hq rfl
  have htraded := (transferWater_traded h).trans (transferWater_traded hback)
  exact ((hg'.transferWater hback).eq_of_parcels hg htraded.symm hparcels)

theorem Spendable.trades_eq (hg : Spendable g) {trades trades' : List (ParcelId × Option PlayerId)}
    (ho : ∀ q ∈ (g.afterAll (Watershed.transfers trades)).parcels.toList,
      ∀ q' ∈ (g.afterAll (Watershed.transfers trades')).parcels.toList, q.id = q'.id →
        q.waterOwner = q'.waterOwner) :
    g.afterAll (Watershed.transfers trades) = g.afterAll (Watershed.transfers trades') := by
  have htraded := (transfers_traded g trades).symm.trans (transfers_traded g trades')
  exact (hg.transfers trades).eq_of_parcels (hg.transfers trades') htraded (htraded.parcels_eq ho)

theorem transferSteps_fail (s : Scene) (id : ParcelId) (taker : Option PlayerId) :
    match (transferSteps id taker).run s with
    | .error e t => s.game.transferWater id taker = .error e ∧ t = s ∧
        s.game.after (.deal (.transferWater id taker)) = s.game
    | .ok _ t => t.game = s.game.after (.deal (.transferWater id taker)) := by
  rw [run_transferSteps, after, act?, deal?]
  cases h : s.game.transferWater id taker with
  | error e => exact ⟨rfl, rfl, rfl⟩
  | ok m => rfl

end Game
end Watershed
