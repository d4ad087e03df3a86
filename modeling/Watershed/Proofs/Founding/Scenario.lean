import Watershed.Proofs.Founding.Roster
import Watershed.Proofs.Game.Ownership

namespace Watershed

def ParcelSpec.rightsUnder (d : ParcelSpec) (water : WaterSettings) : Option Count :=
  d.rights <|> (water.zoneWaterEntitlements.find? d.zone).map (·.2) <|> water.parcelWaterEntitlement

namespace Scenario

def rightsOf (s : Scenario) (water : WaterSettings) (player : String) : Nat :=
  ((s.parcels.filter (·.waterOwner = some player)).map
    fun d => (d.rightsUnder water).elim 0 Count.val).sum

structure Sound (s : Scenario) (water : WaterSettings) : Prop where
  players : s.players.Nodup
  parcels : (s.parcels.map (·.name)).Nodup
  assets : (s.assets.map (·.name)).Nodup
  waterOwner : ∀ d ∈ s.parcels, ∀ name, d.waterOwner = some name → name ∈ s.players
  developer : ∀ d ∈ s.parcels, ∀ name, d.developer = some name → name ∈ s.players
  owner : ∀ d ∈ s.assets, d.owner ∈ s.players
  site : ∀ d ∈ s.assets, ∃ q ∈ s.parcels, q.name = d.parcel ∧ q.developer = some d.owner
  level : ∀ d ∈ s.assets, 1 ≤ d.level.val ∧ d.level.val ≤ d.kind.maxLevel
  rights : water.parcelWaterEntitlement.isSome ∨ ∀ d ∈ s.parcels, d.rights.isSome
  entitlement : ∀ name ∈ s.players, s.rightsOf water name < 18446744073709551616

structure Endows (s : Scenario) (settings : WaterSettings) (name : String) (p : Player) : Prop where
  water : p.water = 0
  money : p.money = 0
  entitlement : p.entitlement.val = s.rightsOf settings name

end Scenario

def Roster.Calls (r : Roster) : Option String → Option PlayerId → Prop :=
  Option.Rel fun name id => (name, id) ∈ r.players.toList

section

variable {r : Roster} {Describes : String → Player → Prop} {declared : List String}
  {players : Roll Player} {name : Option String} {owner : Option PlayerId}

theorem Roster.Calls.owner_iff (h : r.Calls name owner)
    (hr : Enrolled id Player.name Describes declared r.players players) {p : Player}
    (hp : p ∈ players.toList) : owner = some p.id ↔ name = some p.name := by
  cases h with
  | none => simp
  | @some n i hm =>
    rw [Option.some.injEq, Option.some.injEq]
    constructor
    · rintro rfl
      exact hr.name_eq hp hm
    · rintro rfl
      exact congrArg Prod.snd (Roll.eq_of_key hm ((hr.entry _).mpr ⟨p, hp, rfl⟩) rfl)

theorem Roster.Calls.name_mem (h : r.Calls name owner)
    (hr : Enrolled id Player.name Describes declared r.players players) (n : String)
    (hn : name = some n) : n ∈ declared := by
  cases h with
  | none => cases hn
  | some hm =>
    obtain rfl := Option.some.inj hn
    simpa using hr.label_mem hm

theorem Roster.Calls.known (h : r.Calls name owner)
    (hr : Enrolled id Player.name Describes declared r.players players) (i : PlayerId)
    (ho : owner = some i) : ∃ p ∈ players.toList, p.id = i := by
  cases h with
  | none => cases ho
  | some hm =>
    obtain rfl := Option.some.inj ho
    exact hr.known hm

theorem Roster.exists_calls (hr : Enrolled id Player.name Describes declared r.players players)
    (h : ∀ n, name = some n → n ∈ declared) : ∃ owner, r.Calls name owner := by
  cases name with
  | none => exact ⟨none, .none⟩
  | some n =>
    obtain ⟨i, hi⟩ := hr.listed (by simpa using h n rfl)
    exact ⟨some i, .some hi⟩

end

structure ParcelSpec.Describes (settings : WaterSettings) (r : Roster) (d : ParcelSpec)
    (q : Parcel) : Prop where
  zone : q.zone = d.zone
  position : q.position = d.position
  rights : d.rightsUnder settings = some q.rights
  water : q.water = 0
  waterOwner : r.Calls d.waterOwner q.waterOwner
  developer : r.Calls d.developer q.developer

structure AssetSpec.Describes (r : Roster) (d : AssetSpec) (a : Asset) : Prop where
  kind : a.kind = d.kind
  level : a.level = d.level
  usage : a.usage = d.usage
  divisible : a.divisible = d.divisible
  nominal : a.nominal = d.nominal
  allocated : a.allocated = 0
  parcel : (d.parcel, a.parcel) ∈ r.parcels.toList
  owner : (d.owner, a.owner) ∈ r.players.toList

structure Scenario.Founded (s : Scenario) (water : WaterSettings) (f : Founding) : Prop where
  round : f.game.round = 0
  ledger : f.game.ledger = .empty
  players : Enrolled id Player.name (s.Endows water) s.players f.roster.players f.game.players
  parcels : Enrolled ParcelSpec.name Parcel.name (ParcelSpec.Describes water f.roster) s.parcels
    f.roster.parcels f.game.parcels
  assets : Enrolled AssetSpec.name Asset.name (AssetSpec.Describes f.roster) s.assets
    f.roster.assets f.game.assets
  rightful : f.game.Rightful

theorem rightsUnder_eq {s : Scenario} {water : WaterSettings} {e : Option Entitlements}
    (h : Founding.entitlementsFor s water = .ok e) {d : ParcelSpec} (hd : d ∈ s.parcels) :
    d.rightsUnder water = some (Founding.rightsOf e d) := by
  unfold Founding.entitlementsFor at h
  cases hr : d.rights with
  | some rights => simp [ParcelSpec.rightsUnder, Founding.rightsOf, hr]
  | none =>
    rw [if_pos (List.any_eq_true.mpr ⟨d, hd, by rw [hr]; rfl⟩), mapError_eq_ok, map_eq_ok] at h
    obtain ⟨e, he, rfl⟩ := h
    unfold Entitlements.ofSettings WaterSettings.require at he
    cases hw : water.parcelWaterEntitlement with
    | none =>
      rw [hw] at he
      cases he
    | some standard =>
      rw [hw] at he
      obtain rfl := Except.ok.inj he
      simp only [ParcelSpec.rightsUnder, Founding.rightsOf, Entitlements.forZone, hr, hw]
      cases water.zoneWaterEntitlements.find? d.zone <;> rfl

theorem exists_entitlementsFor {s : Scenario} {water : WaterSettings} :
    (∃ e, Founding.entitlementsFor s water = .ok e) ↔
      (water.parcelWaterEntitlement.isSome ∨ ∀ d ∈ s.parcels, d.rights.isSome) := by
  unfold Founding.entitlementsFor Entitlements.ofSettings WaterSettings.require
  split
  · rename_i h
    obtain ⟨d, hd, hr⟩ := List.any_eq_true.mp h
    have hsome : ¬ ∀ d ∈ s.parcels, d.rights.isSome := by
      intro hall
      have := hall d hd
      cases hr' : d.rights <;> simp_all
    simp only [hsome, or_false, mapError_eq_ok, map_eq_ok]
    cases water.parcelWaterEntitlement with
    | none => simp [bind, Except.bind]
    | some standard => simp [bind, Except.bind]
  · rename_i h
    refine iff_of_true ⟨none, rfl⟩ (Or.inr fun d hd => ?_)
    cases hr : d.rights with
    | some rights => rfl
    | none => exact absurd (List.any_eq_true.mpr ⟨d, hd, by rw [hr]; rfl⟩) h

theorem Scenario.rightsOf_append {players : List String} {parcels : List ParcelSpec}
    {assets : List AssetSpec} {water : WaterSettings} {d : ParcelSpec} {name : String} :
    Scenario.rightsOf ⟨players, parcels ++ [d], assets⟩ water name =
      Scenario.rightsOf ⟨players, parcels, assets⟩ water name +
        if d.waterOwner = some name then (d.rightsUnder water).elim 0 Count.val else 0 := by
  unfold Scenario.rightsOf
  by_cases h : d.waterOwner = some name <;> simp [h]

end Watershed
