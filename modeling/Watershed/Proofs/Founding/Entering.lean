import Watershed.Proofs.Founding.Scenario
import Watershed.Proofs.Season.Start

namespace Watershed

def Fresh (fresh : Nat → Uuid) (n : Nat) : Prop := ∀ i < n, ∀ j < n, fresh i = fresh j → i = j

instance (fresh : Nat → Uuid) (n : Nat) : Decidable (Fresh fresh n) :=
  inferInstanceAs (Decidable (∀ i < n, ∀ j < n, _ → _))

theorem Fresh.ne {fresh : Nat → Uuid} {n i j : Nat} (h : Fresh fresh n) (hij : i < j) (hj : j < n) :
    fresh i ≠ fresh j :=
  fun e => Nat.ne_of_lt hij (h i (Nat.lt_trans hij hj) j hj e)

def Scenario.size (s : Scenario) : Nat := s.players.length + s.parcels.length + s.assets.length

structure Founding.Upto (fresh : Nat → Uuid) (n : Nat) (water : WaterSettings) (s : Scenario)
    (f : Founding) : Prop where
  used : f.used = s.size
  unspent : ∀ i, f.used ≤ i → i < n → f.game.players.find? ⟨fresh i⟩ = none ∧
    f.game.parcels.find? ⟨fresh i⟩ = none ∧ f.game.assets.find? ⟨fresh i⟩ = none
  sound : s.Sound water
  founded : s.Founded water f

namespace Founding

variable {fresh : Nat → Uuid} {n : Nat} {water : WaterSettings} {f f' : Founding}
  {players : List String} {parcels : List ParcelSpec} {assets : List AssetSpec}

theorem Upto.used_lt {s : Scenario} (hf : Upto fresh n water s f) (h : s.size < n) : f.used < n := by
  rw [hf.used]
  exact h

theorem start_upto : Upto fresh n water ⟨[], [], []⟩ start where
  used := rfl
  unspent _ _ _ := ⟨rfl, rfl, rfl⟩
  sound := by constructor <;> simp
  founded := ⟨rfl, rfl, .empty, .empty, .empty, Game.rightful_empty⟩

theorem Upto.rightful (hf : f.game.Rightful) (h : Game.Run Act.Founds f.game f'.game) :
    f'.game.Rightful :=
  hf.run (h.mono fun _ _ ⟨_, hd, ha⟩ => by subst hd; exact ha.plain)

theorem enterPlayer_upto {name : String} (hfresh : Fresh fresh n)
    (hf : Upto fresh n water ⟨players, [], []⟩ f) (h : enterPlayer fresh f name = .ok f') :
    Upto fresh n water ⟨players ++ [name], [], []⟩ f' := by
  have hrun := enterPlayer_run h
  unfold enterPlayer at h
  split at h
  · cases h
  rename_i hname
  obtain ⟨g, hg, h⟩ := bind_eq_ok.mp h
  obtain ⟨hid, rfl⟩ := Game.addPlayer_eq_ok.mp (mapError_eq_ok.mp hg)
  obtain rfl := Except.ok.inj h
  have hname := Bool.eq_false_iff.mpr hname
  have hnew : name ∉ players := by
    intro hm
    have := (hf.founded.players.named name).mpr (by simpa using hm)
    rw [hname] at this
    cases this
  exact {
    used := by simp [hf.used, Scenario.size]
    unspent := by
      intro i hi hin
      obtain ⟨hp, hq, ha⟩ := hf.unspent i (Nat.le_of_succ_le hi) hin
      refine ⟨?_, hq, ha⟩
      rw [Roll.find?_put_of_ne, hp]
      exact fun e => hfresh.ne hi hin (congrArg PlayerId.uuid e)
    sound := { hf.sound with
      players := nodup_concat.mpr ⟨hf.sound.players, hnew⟩
      waterOwner := by simp
      developer := by simp
      owner := by simp
      entitlement := by simp [Scenario.rightsOf] }
    founded := { hf.founded with
      players := (hf.founded.players.put (d := name) (a := ⟨⟨fresh f.used⟩, name, 0, 0, .empty, 0⟩)
        rfl ⟨rfl, rfl, rfl⟩ hname hid).imp fun _ _ _ hp => ⟨hp.water, hp.money, hp.entitlement⟩
      parcels := hf.founded.parcels.imp (by simp)
      assets := hf.founded.assets.imp (by simp)
      rightful := Upto.rightful hf.founded.rightful hrun } }

theorem enterPlayer_ok {name : String} (hf : Upto fresh n water ⟨players, [], []⟩ f)
    (hlt : f.used < n) (hnew : name ∉ players) : ∃ f', enterPlayer fresh f name = .ok f' := by
  have hname : f.roster.players.contains name = false := by
    rw [← Bool.not_eq_true, hf.founded.players.named]
    simpa using hnew
  have hid := (hf.unspent f.used (Nat.le_refl _) hlt).1
  unfold enterPlayer
  rw [if_neg (by simp [hname])]
  exact ⟨_, bind_eq_ok.mpr ⟨_, mapError_eq_ok.mpr (Game.addPlayer_eq_ok.mpr ⟨hid, rfl⟩), rfl⟩⟩

theorem enterParcel_upto {e : Option Entitlements} {d : ParcelSpec} (hfresh : Fresh fresh n)
    (hd : d.rightsUnder water = some (rightsOf e d))
    (hrights : water.parcelWaterEntitlement.isSome ∨ ∀ d' ∈ parcels ++ [d], d'.rights.isSome)
    (hf : Upto fresh n water ⟨players, parcels, []⟩ f) (h : enterParcel fresh e f d = .ok f') :
    Upto fresh n water ⟨players, parcels ++ [d], []⟩ f' := by
  have hrun := enterParcel_run h
  unfold enterParcel at h
  split at h
  · cases h
  rename_i hname
  obtain ⟨waterOwner, hw, h⟩ := bind_eq_ok.mp h
  obtain ⟨developer, hv, h⟩ := bind_eq_ok.mp h
  obtain ⟨g, hg, h⟩ := bind_eq_ok.mp h
  obtain rfl := Except.ok.inj h
  have hs := Game.addParcel_eq_ok (mapError_eq_ok.mp hg)
  have hw : f.roster.Calls d.waterOwner waterOwner := findOwner_eq_ok.mp hw
  have hv : f.roster.Calls d.developer developer := findOwner_eq_ok.mp hv
  have hname := Bool.eq_false_iff.mpr hname
  have hnew : d.name ∉ parcels.map (·.name) := by
    rw [← hf.founded.parcels.named, hname]
    exact Bool.false_ne_true
  have hplayers : Enrolled id Player.name
      (Scenario.Endows ⟨players, parcels ++ [d], []⟩ water) players f.roster.players g.players := by
    refine hf.founded.players.revise (fun p' hp' => ?_) hs.remain
    obtain ⟨p, hp, he⟩ := hs.players p' hp'
    have hlink := hw.owner_iff hf.founded.players hp
    cases he with
    | owner entitlement ho he =>
      refine ⟨p, hp, rfl, rfl, ?_⟩
      rintro _ _ rfl hdesc
      refine ⟨hdesc.water, hdesc.money, ?_⟩
      rw [Scenario.rightsOf_append, if_pos (hlink.mp ho), hd, ← he, ← hdesc.entitlement]
      rfl
    | other ho =>
      refine ⟨p', hp, rfl, rfl, ?_⟩
      rintro _ _ rfl hdesc
      refine ⟨hdesc.water, hdesc.money, ?_⟩
      rw [Scenario.rightsOf_append, if_neg (fun h => ho (hlink.mpr h)), Nat.add_zero]
      exact hdesc.entitlement
  have hparcels := hf.founded.parcels.put
    (a := ⟨⟨fresh f.used⟩, d.name, d.zone, d.position, rightsOf e d, 0, waterOwner, developer⟩)
    rfl ⟨rfl, rfl, hd, rfl, hw, hv⟩ hname hs.new
  exact {
    used := by simp [hf.used, Scenario.size]; omega
    unspent := by
      intro i hi hin
      obtain ⟨hp, hq, ha⟩ := hf.unspent i (Nat.le_of_succ_le hi) hin
      refine ⟨hs.find?_player hp, ?_, hs.assets ▸ ha⟩
      rw [hs.parcels, Roll.find?_put_of_ne, hq]
      exact fun e => hfresh.ne hi hin (congrArg ParcelId.uuid e)
    sound := { hf.sound with
      parcels := by
        rw [List.map_append]
        exact nodup_concat.mpr ⟨hf.sound.parcels, hnew⟩
      waterOwner := forall_mem_concat.mpr ⟨hf.sound.waterOwner, hw.name_mem hf.founded.players⟩
      developer := forall_mem_concat.mpr ⟨hf.sound.developer, hv.name_mem hf.founded.players⟩
      site := by simp
      rights := hrights
      entitlement := by
        intro name hn
        obtain ⟨p, hp, rfl, hdesc⟩ := hplayers.recorded name hn
        exact hdesc.entitlement ▸ p.entitlement.val_lt }
    founded := {
      round := hs.round.trans hf.founded.round
      ledger := hs.ledger.trans hf.founded.ledger
      players := hplayers
      parcels := by
        rw [hs.parcels]
        exact hparcels.imp fun _ _ _ h => { h with }
      assets := by
        rw [hs.assets]
        exact hf.founded.assets.imp (by simp)
      rightful := Upto.rightful hf.founded.rightful hrun } }

theorem enterParcel_ok {e : Option Entitlements} {d : ParcelSpec}
    (hd : d.rightsUnder water = some (rightsOf e d))
    (hf : Upto fresh n water ⟨players, parcels, []⟩ f) (hlt : f.used < n)
    (hs : Scenario.Sound ⟨players, parcels ++ [d], []⟩ water) :
    ∃ f', enterParcel fresh e f d = .ok f' := by
  have hmem : d ∈ parcels ++ [d] := List.mem_append_right _ (List.mem_singleton_self d)
  have hname : f.roster.parcels.contains d.name = false := by
    rw [← Bool.not_eq_true, hf.founded.parcels.named]
    have := hs.parcels
    rw [List.map_append] at this
    exact (nodup_concat.mp this).2
  obtain ⟨waterOwner, hw⟩ := Roster.exists_calls hf.founded.players (hs.waterOwner d hmem)
  obtain ⟨developer, hv⟩ := Roster.exists_calls hf.founded.players (hs.developer d hmem)
  obtain ⟨g, hg⟩ := Game.addParcel_ok (g := f.game)
    (q := ⟨⟨fresh f.used⟩, d.name, d.zone, d.position, rightsOf e d, 0, waterOwner, developer⟩)
    (hf.unspent f.used (Nat.le_refl _) hlt).2.1 (hw.known hf.founded.players)
    (hv.known hf.founded.players) fun p hp ho => by
      obtain ⟨name, hm, rfl, hdesc⟩ := hf.founded.players.described p hp
      have hle := hs.entitlement _ hm
      rw [Scenario.rightsOf_append, if_pos ((hw.owner_iff hf.founded.players hp).mp ho), hd,
        ← hdesc.entitlement] at hle
      exact hle
  unfold enterParcel
  rw [if_neg (by simp [hname])]
  exact ⟨_, bind_eq_ok.mpr ⟨_, findOwner_eq_ok.mpr hw, bind_eq_ok.mpr
    ⟨_, findOwner_eq_ok.mpr hv, bind_eq_ok.mpr ⟨g, mapError_eq_ok.mpr hg, rfl⟩⟩⟩⟩

theorem enterAsset_upto {d : AssetSpec} (hfresh : Fresh fresh n)
    (hf : Upto fresh n water ⟨players, parcels, assets⟩ f) (hlt : f.used < n)
    (h : enterAsset fresh f d = .ok f') :
    Upto fresh n water ⟨players, parcels, assets ++ [d]⟩ f' := by
  have hrun := enterAsset_run h
  unfold enterAsset at h
  split at h
  · cases h
  rename_i hname
  obtain ⟨owner, ho, h⟩ := bind_eq_ok.mp h
  obtain ⟨parcel, hp, h⟩ := bind_eq_ok.mp h
  obtain ⟨g, hg, h⟩ := bind_eq_ok.mp h
  obtain rfl := Except.ok.inj h
  obtain ⟨_, ⟨q, hq, rfl, hdeveloper⟩, hlevel, rfl⟩ :=
    Game.build_eq_ok_iff.mp (mapError_eq_ok.mp hg)
  have ho := findPlayer_eq_ok.mp ho
  have hp := findParcel_eq_ok.mp hp
  have hid := (hf.unspent f.used (Nat.le_refl _) hlt).2.2
  have hname := Bool.eq_false_iff.mpr hname
  have hnew : d.name ∉ assets.map (·.name) := by
    rw [← hf.founded.assets.named, hname]
    exact Bool.false_ne_true
  have howner : d.owner ∈ players := by simpa using hf.founded.players.label_mem ho
  have hsite : ∃ q ∈ parcels, q.name = d.parcel ∧ q.developer = some d.owner := by
    obtain ⟨dq, hdq, hlabel, hdesc⟩ := hf.founded.parcels.described q hq
    obtain ⟨p, hpm, rfl⟩ := hf.founded.players.known ho
    refine ⟨dq, hdq, hlabel.trans (hf.founded.parcels.name_eq hq hp).symm, ?_⟩
    rw [hf.founded.players.name_eq hpm ho]
    exact (hdesc.developer.owner_iff hf.founded.players hpm).mp hdeveloper
  exact {
    used := by simp [hf.used, Scenario.size]; omega
    unspent := by
      intro i hi hin
      obtain ⟨hp, hq, ha⟩ := hf.unspent i (Nat.le_of_succ_le hi) hin
      refine ⟨hp, hq, ?_⟩
      rw [Roll.find?_put_of_ne, ha]
      exact fun e => hfresh.ne hi hin (congrArg AssetId.uuid e)
    sound := { hf.sound with
      assets := by
        rw [List.map_append]
        exact nodup_concat.mpr ⟨hf.sound.assets, hnew⟩
      owner := forall_mem_concat.mpr ⟨hf.sound.owner, howner⟩
      site := forall_mem_concat.mpr ⟨hf.sound.site, hsite⟩
      level := forall_mem_concat.mpr ⟨hf.sound.level, hlevel⟩ }
    founded := { hf.founded with
      assets := (hf.founded.assets.put (d := d)
        (a := ⟨⟨fresh f.used⟩, d.name, d.kind, d.level, q.id, owner, d.usage, 0, d.divisible, d.nominal⟩)
        rfl ⟨rfl, rfl, rfl, rfl, rfl, rfl, hp, ho⟩ hname hid).imp fun _ _ _ h => { h with }
      players := hf.founded.players.imp fun _ _ _ h => { h with }
      parcels := hf.founded.parcels.imp fun _ _ _ h => { h with }
      rightful := Upto.rightful hf.founded.rightful hrun } }

theorem enterAsset_ok {d : AssetSpec} (hf : Upto fresh n water ⟨players, parcels, assets⟩ f)
    (hs : Scenario.Sound ⟨players, parcels, assets ++ [d]⟩ water) :
    ∃ f', enterAsset fresh f d = .ok f' := by
  have hmem : d ∈ assets ++ [d] := List.mem_append_right _ (List.mem_singleton_self d)
  have hname : f.roster.assets.contains d.name = false := by
    rw [← Bool.not_eq_true, hf.founded.assets.named]
    have := hs.assets
    rw [List.map_append] at this
    exact (nodup_concat.mp this).2
  obtain ⟨owner, ho⟩ := hf.founded.players.listed (by simpa using hs.owner d hmem)
  obtain ⟨p, hp, rfl⟩ := hf.founded.players.known ho
  obtain ⟨dq, hdq, hn, hdev⟩ := hs.site d hmem
  obtain ⟨q, hq, hlabel, hdesc⟩ := hf.founded.parcels.recorded dq hdq
  have hparcel : (d.parcel, q.id) ∈ f.roster.parcels.toList :=
    (hf.founded.parcels.entry _).mpr ⟨q, hq, by rw [← hn, hlabel]; rfl⟩
  have hdev : q.developer = some p.id := by
    rw [hdesc.developer.owner_iff hf.founded.players hp, hdev, hf.founded.players.name_eq hp ho]
  obtain ⟨g, hg⟩ : ∃ g, f.game.build ⟨fresh f.used⟩ p.id q.id
      ⟨d.name, d.kind, d.level, d.usage, d.divisible, d.nominal⟩ = .ok g :=
    ⟨_, Game.build_eq_ok_iff.mpr ⟨⟨p, hp, rfl⟩, ⟨q, hq, rfl, hdev⟩, hs.level d hmem, rfl⟩⟩
  unfold enterAsset
  rw [if_neg (by simp [hname])]
  exact ⟨_, bind_eq_ok.mpr ⟨_, findPlayer_eq_ok.mpr ho, bind_eq_ok.mpr
    ⟨_, findParcel_eq_ok.mpr hparcel, bind_eq_ok.mpr ⟨_, mapError_eq_ok.mpr hg, rfl⟩⟩⟩⟩

end Founding

namespace Scenario

theorem Sound.of_parcels {s : Scenario} {water : WaterSettings} (h : s.Sound water)
    {parcels : List ParcelSpec} (hp : parcels <+: s.parcels) :
    Sound ⟨s.players, parcels, []⟩ water := by
  have hsub : ∀ d ∈ parcels, d ∈ s.parcels := fun _ hd => hp.subset hd
  exact {
    players := h.players
    parcels := h.parcels.sublist (hp.sublist.map _)
    assets := List.nodup_nil
    waterOwner := fun d hd => h.waterOwner d (hsub d hd)
    developer := fun d hd => h.developer d (hsub d hd)
    owner := by simp
    site := by simp
    level := by simp
    rights := h.rights.imp_right fun hr d hd => hr d (hsub d hd)
    entitlement := by
      intro name hn
      refine Nat.lt_of_le_of_lt ?_ (h.entitlement name hn)
      exact ((hp.sublist.filter _).map _).sum_le_sum fun _ _ => Nat.zero_le _ }

theorem Sound.of_assets {s : Scenario} {water : WaterSettings} (h : s.Sound water)
    {assets : List AssetSpec} (hp : assets <+: s.assets) :
    Sound ⟨s.players, s.parcels, assets⟩ water :=
  { h with
    assets := h.assets.sublist (hp.sublist.map _)
    owner := fun d hd => h.owner d (hp.subset hd)
    site := fun d hd => h.site d (hp.subset hd)
    level := fun d hd => h.level d (hp.subset hd) }

open Founding

variable {fresh : Nat → Uuid} {s : Scenario} {water : WaterSettings}

theorem found_upto (hfresh : Fresh fresh s.size) {f : Founding} (h : s.found fresh water = .ok f) :
    Upto fresh s.size water s f := by
  obtain ⟨f₁, hplayers, h⟩ := bind_eq_ok.mp h
  obtain ⟨e, he, h⟩ := bind_eq_ok.mp h
  obtain ⟨f₂, hparcels, hassets⟩ := bind_eq_ok.mp h
  have hrights := exists_entitlementsFor.mp ⟨e, he⟩
  have h₁ : Upto fresh s.size water ⟨s.players, [], []⟩ f₁ :=
    foldlM_invariant (I := fun l => Upto fresh s.size water ⟨l, [], []⟩)
      (fun _ _ _ _ _ hf => enterPlayer_upto hfresh hf) start_upto hplayers
  have h₂ : Upto fresh s.size water ⟨s.players, s.parcels, []⟩ f₂ := by
    refine foldlM_invariant (I := fun l => Upto fresh s.size water ⟨s.players, l, []⟩) ?_ h₁ hparcels
    intro pre d f f' hpre hf
    have hsub : ∀ d' ∈ pre ++ [d], d' ∈ s.parcels := fun _ hd => hpre.subset hd
    exact enterParcel_upto hfresh (rightsUnder_eq he (hsub d (by simp)))
      (hrights.imp_right fun hr d' hd => hr d' (hsub d' hd)) hf
  refine foldlM_invariant (I := fun l => Upto fresh s.size water ⟨s.players, s.parcels, l⟩) ?_ h₂
    hassets
  intro pre d f f' hpre hf
  exact enterAsset_upto hfresh hf (hf.used_lt (Nat.add_lt_add_left (length_lt_of_begins hpre) _))

theorem Sound.exists_found (hfresh : Fresh fresh s.size) (h : s.Sound water) :
    ∃ f, s.found fresh water = .ok f := by
  obtain ⟨e, he⟩ := exists_entitlementsFor.mpr h.rights
  have h₁ : ∃ f₁, s.players.foldlM (enterPlayer fresh) .start = .ok f₁ ∧
      Upto fresh s.size water ⟨s.players, [], []⟩ f₁ := by
    refine foldlM_progress (I := fun l => Upto fresh s.size water ⟨l, [], []⟩) ?_ start_upto
    intro pre name f hpre hf
    have hlt : f.used < s.size := by
      have hlen := length_lt_of_begins hpre
      refine hf.used_lt ?_
      simp only [Scenario.size, List.length_nil]
      omega
    obtain ⟨f', hf'⟩ := enterPlayer_ok hf hlt (nodup_concat.mp (h.players.sublist hpre.sublist)).2
    exact ⟨f', hf', enterPlayer_upto hfresh hf hf'⟩
  obtain ⟨f₁, h₁, hf₁⟩ := h₁
  have h₂ : ∃ f₂, s.parcels.foldlM (enterParcel fresh e) f₁ = .ok f₂ ∧
      Upto fresh s.size water ⟨s.players, s.parcels, []⟩ f₂ := by
    refine foldlM_progress (I := fun l => Upto fresh s.size water ⟨s.players, l, []⟩) ?_ hf₁
    intro pre d f hpre hf
    have hlt : f.used < s.size := by
      have hlen := length_lt_of_begins hpre
      refine hf.used_lt ?_
      simp only [Scenario.size, List.length_nil]
      omega
    have hd := rightsUnder_eq he (hpre.subset (List.mem_append_right pre (List.mem_singleton_self d)))
    have hs := h.of_parcels hpre
    obtain ⟨f', hf'⟩ := enterParcel_ok hd hf hlt hs
    exact ⟨f', hf', enterParcel_upto hfresh hd hs.rights hf hf'⟩
  obtain ⟨f₂, h₂, hf₂⟩ := h₂
  have h₃ : ∃ f₃, s.assets.foldlM (enterAsset fresh) f₂ = .ok f₃ ∧
      Upto fresh s.size water ⟨s.players, s.parcels, s.assets⟩ f₃ := by
    refine foldlM_progress (I := fun l => Upto fresh s.size water ⟨s.players, s.parcels, l⟩) ?_ hf₂
    intro pre d f hpre hf
    have hlt : f.used < s.size := hf.used_lt (Nat.add_lt_add_left (length_lt_of_begins hpre) _)
    obtain ⟨f', hf'⟩ := enterAsset_ok hf (h.of_assets hpre)
    exact ⟨f', hf', enterAsset_upto hfresh hf hlt hf'⟩
  obtain ⟨f₃, h₃, _⟩ := h₃
  exact ⟨f₃, bind_eq_ok.mpr ⟨f₁, h₁, bind_eq_ok.mpr ⟨e, he, bind_eq_ok.mpr ⟨f₂, h₂, h₃⟩⟩⟩⟩

theorem found_exactly (hfresh : Fresh fresh s.size) :
    ((∃ f, s.found fresh water = .ok f) ↔ s.Sound water) ∧
      ∀ f, s.found fresh water = .ok f → s.Founded water f := by
  refine ⟨⟨?_, fun h => h.exists_found hfresh⟩, fun f h => (found_upto hfresh h).founded⟩
  rintro ⟨f, h⟩
  exact (found_upto hfresh h).sound

def valley : Scenario where
  players := ["farmer", "miller"]
  parcels := [⟨"meadow", "north", ⟨.zero, .zero⟩, none, some "farmer", some "miller"⟩,
    ⟨"marsh", "south", ⟨.zero, .zero⟩, some (.clamp 6), some "farmer", none⟩]
  assets := [⟨"mill", "meadow", "miller", .factory, 1, .clamp 5, true, 0⟩]

def zoned : WaterSettings :=
  ⟨none, none, none, some (.clamp 4), Roll.empty.put ("north", .clamp 7)⟩

theorem valley_founded : Fresh Uuid.serial valley.size ∧ valley.Sound zoned ∧
    ∃ f, valley.found Uuid.serial zoned = .ok f ∧ valley.Founded zoned f ∧
      f.game.players.toList.map (·.entitlement.val) = [13, 0] := by
  have hfresh : Fresh Uuid.serial valley.size := by decide +kernel
  obtain ⟨hsound, hfounded⟩ : _ ∧ ∀ f, valley.found Uuid.serial zoned = .ok f → _ :=
    found_exactly hfresh
  have hrun : (match valley.found Uuid.serial zoned with
    | .ok f => f.game.players.toList.map (·.entitlement.val)
    | .error _ => []) = [13, 0] := by decide +kernel
  cases h : valley.found Uuid.serial zoned with
  | error e =>
    rw [h] at hrun
    cases hrun
  | ok f =>
    rw [h] at hrun
    exact ⟨hfresh, hsound.mp ⟨f, h⟩, f, rfl, hfounded f h, hrun⟩

end Scenario
end Watershed
