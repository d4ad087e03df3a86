import Watershed.Proofs.Game.Act

namespace Watershed.Game

theorem addPlayer_eq_ok {g g' : Game} {p : Player} :
    g.addPlayer p = .ok g' ↔
      g.players.find? p.id = none ∧ { g with players := g.players.put p } = g' := by
  unfold addPlayer
  cases hc : g.players.contains p.id with
  | true =>
    rw [if_pos rfl, ← Roll.contains_eq_false, hc]
    simp
  | false => simp [Roll.contains_eq_false.mp hc]

theorem requireOwner_eq_ok {g : Game} {owner : Option PlayerId} {u : Unit} :
    g.requireOwner owner = .ok u ↔ ∀ id, owner = some id → ∃ p ∈ g.players.toList, p.id = id := by
  cases owner with
  | none => simp [requireOwner]
  | some id => simp [requireOwner, bind_eq_ok, findPlayer_eq_ok]

inductive Endowed (q : Parcel) (p : Player) : Player → Prop
  | owner (e : Count) (ho : q.waterOwner = some p.id) (he : p.entitlement.val + q.rights.val = e.val) :
      Endowed q p { p with entitlement := e, rights := p.rights.put q.id }
  | other (ho : q.waterOwner ≠ some p.id) : Endowed q p p

structure Settled (g : Game) (q : Parcel) (g' : Game) : Prop where
  new : g.parcels.find? q.id = none
  waterOwner : ∀ id, q.waterOwner = some id → ∃ p ∈ g.players.toList, p.id = id
  developer : ∀ id, q.developer = some id → ∃ p ∈ g.players.toList, p.id = id
  round : g'.round = g.round
  assets : g'.assets = g.assets
  ledger : g'.ledger = g.ledger
  parcels : g'.parcels = g.parcels.put q
  players : ∀ p' ∈ g'.players.toList, ∃ p ∈ g.players.toList, Endowed q p p'
  remain : ∀ p ∈ g.players.toList, ∃ p' ∈ g'.players.toList, p'.id = p.id

theorem addParcel_eq_ok {g g' : Game} {q : Parcel} (h : g.addParcel q = .ok g') :
    Settled g q g' := by
  unfold addParcel at h
  split at h
  · cases h
  rename_i hc
  obtain ⟨_, hw, h⟩ := bind_eq_ok.mp h
  obtain ⟨_, hd, h⟩ := bind_eq_ok.mp h
  have hw := requireOwner_eq_ok.mp hw
  have hnew := Roll.contains_eq_false.mp (Bool.eq_false_iff.mpr hc)
  cases ho : q.waterOwner with
  | none =>
    rw [ho] at h
    obtain rfl := Except.ok.inj h
    exact ⟨hnew, hw, requireOwner_eq_ok.mp hd, rfl, rfl, rfl, rfl,
      fun p hp => ⟨p, hp, .other (by simp [ho])⟩, fun p hp => ⟨p, hp, rfl⟩⟩
  | some id =>
    obtain ⟨p, hp, rfl⟩ := hw id ho
    have hf : g.players.find? p.id = some p := Roll.find?_of_mem hp
    rw [ho] at h
    simp only [Option.bind_some, hf] at h
    split at h
    · cases h
    rename_i e he
    obtain rfl := Except.ok.inj h
    refine ⟨hnew, hw, requireOwner_eq_ok.mp hd, rfl, rfl, rfl, rfl, fun p' hp' => ?_, fun p' hp' => ?_⟩
    · rcases Roll.mem_put.mp hp' with rfl | ⟨hp', hne⟩
      · exact ⟨p, hp, .owner e ho (Count.add?_eq_some.mp he)⟩
      · refine ⟨p', hp', .other fun ho' => hne ?_⟩
        exact Option.some.inj (ho'.symm.trans ho)
    · by_cases hk : p'.id = p.id
      · exact ⟨_, Roll.mem_put.mpr (Or.inl rfl), hk.symm⟩
      · exact ⟨p', Roll.mem_put.mpr (Or.inr ⟨hp', hk⟩), rfl⟩

theorem Settled.find?_player {g g' : Game} {q : Parcel} (hs : Settled g q g') {id : PlayerId}
    (h : g.players.find? id = none) : g'.players.find? id = none := by
  rw [Roll.find?_eq_none] at h ⊢
  intro p' hp'
  obtain ⟨p, hp, he⟩ := hs.players p' hp'
  have hid : key p' = key p := by cases he <;> rfl
  rw [hid]
  exact h p hp

theorem addParcel_ok {g : Game} {q : Parcel} (hnew : g.parcels.find? q.id = none)
    (hw : ∀ id, q.waterOwner = some id → ∃ p ∈ g.players.toList, p.id = id)
    (hd : ∀ id, q.developer = some id → ∃ p ∈ g.players.toList, p.id = id)
    (hroom : ∀ p ∈ g.players.toList, q.waterOwner = some p.id →
      p.entitlement.val + q.rights.val < 18446744073709551616) : ∃ g', g.addParcel q = .ok g' := by
  unfold addParcel
  rw [if_neg (by simp [Roll.contains_eq_false.mpr hnew]), requireOwner_eq_ok (u := ()).mpr hw,
    requireOwner_eq_ok (u := ()).mpr hd]
  simp only [bind, Except.bind]
  cases ho : q.waterOwner with
  | none => exact ⟨_, rfl⟩
  | some id =>
    obtain ⟨p, hp, rfl⟩ := hw id ho
    have hf : g.players.find? p.id = some p := Roll.find?_of_mem hp
    have he : p.entitlement.add? q.rights = some ⟨_, hroom p hp ho⟩ := Count.add?_eq_some.mpr rfl
    simp only [Option.bind_some, hf, he]
    exact ⟨_, rfl⟩

theorem build_eq_ok_iff {g g' : Game} {id : AssetId} {player : PlayerId} {parcel : ParcelId}
    {b : Blueprint} : g.build id player parcel b = .ok g' ↔
      (∃ p ∈ g.players.toList, p.id = player) ∧
      (∃ q ∈ g.parcels.toList, q.id = parcel ∧ q.developer = some player) ∧
      (1 ≤ b.level.val ∧ b.level.val ≤ b.kind.maxLevel) ∧
      { g with
        assets := g.assets.put
          ⟨id, b.name, b.kind, b.level, parcel, player, b.usage, 0, b.divisible, b.nominal⟩ } = g' := by
  have hlevel : b.level = 0 ↔ b.level.val = 0 := Count.val_inj.symm
  simp only [build, bind_eq_ok, findPlayer_eq_ok, findParcel_eq_ok, hlevel]
  constructor
  · rintro ⟨p, hp, q, ⟨hq, hid⟩, h⟩
    split at h
    · cases h
    rename_i hd
    split at h
    · cases h
    rename_i hl
    refine ⟨⟨p, hp⟩, ⟨q, hq, hid, not_not.mp hd⟩, ?_, Except.ok.inj h⟩
    omega
  · rintro ⟨⟨p, hp⟩, ⟨q, hq, hid, hd⟩, hl, rfl⟩
    refine ⟨p, hp, q, ⟨hq, hid⟩, ?_⟩
    rw [if_neg (not_not.mpr hd), if_neg (by omega)]

theorem build_eq_ok {g g' : Game} {id : AssetId} {player : PlayerId} {parcel : ParcelId}
    {b : Blueprint} (h : g.build id player parcel b = .ok g') :
    (∃ p ∈ g.players.toList, p.id = player) ∧
      { g with
        assets := g.assets.put
          ⟨id, b.name, b.kind, b.level, parcel, player, b.usage, 0, b.divisible, b.nominal⟩ } = g' := by
  obtain ⟨hplayer, _, _, h⟩ := build_eq_ok_iff.mp h
  exact ⟨hplayer, h⟩

theorem credit_eq_ok_iff {g g' : Game} {player : PlayerId} {amount : Decimal} :
    g.credit player amount = .ok g' ↔
      ∃ p ∈ g.players.toList, p.id = player ∧ ∃ money, p.money.add? amount = some money ∧
        { g with players := g.players.put { p with money := money } } = g' := by
  simp only [credit, bind_eq_ok, findPlayer_eq_ok]
  constructor
  · rintro ⟨p, ⟨hp, hid⟩, h⟩
    split at h
    · cases h
    · rename_i money hmoney
      exact ⟨p, hp, hid, money, hmoney, Except.ok.inj h⟩
  · rintro ⟨p, hp, hid, money, hmoney, rfl⟩
    refine ⟨p, ⟨hp, hid⟩, ?_⟩
    rw [hmoney]

theorem credit_eq_ok {g g' : Game} {player : PlayerId} {amount : Decimal}
    (h : g.credit player amount = .ok g') :
    ∃ p ∈ g.players.toList, ∃ money : Decimal,
      { g with players := g.players.put { p with money := money } } = g' := by
  obtain ⟨p, hp, _, money, _, h⟩ := credit_eq_ok_iff.mp h
  exact ⟨p, hp, money, h⟩

theorem eachOf_eq_ok {α : Type} {f : PlayerId → Except GameFault α} {owner : Option PlayerId}
    {l : List α} : eachOf f owner = .ok l ↔
      (owner = none ∧ l = []) ∨ ∃ id a, owner = some id ∧ f id = .ok a ∧ l = [a] := by
  cases owner with
  | none => simp [eachOf, eq_comm]
  | some id =>
    simp only [eachOf, map_eq_ok, reduceCtorEq, false_and, false_or, Option.some.injEq]
    exact ⟨fun ⟨a, ha, hl⟩ => ⟨id, a, rfl, ha, hl.symm⟩, fun ⟨_, a, hid, ha, hl⟩ =>
      ⟨a, hid ▸ ha, hl.symm⟩⟩

theorem eachOf_players {f : PlayerId → Except GameFault Player} {owner : Option PlayerId}
    {l : List Player} (hf : ∀ id p, f id = .ok p → p.id = id) (h : eachOf f owner = .ok l) :
    (∀ p ∈ l, owner = some p.id ∧ f p.id = .ok p) ∧
      (∀ id, owner = some id → ∃ p ∈ l, p.id = id) ∧ (l.map key).Nodup := by
  rcases eachOf_eq_ok.mp h with ⟨rfl, rfl⟩ | ⟨id, p, rfl, hp, rfl⟩
  · simp
  · obtain rfl := hf id p hp
    refine ⟨fun p' hp' => ?_, fun id hid => ?_, List.nodup_singleton _⟩
    · obtain rfl := List.mem_singleton.mp hp'
      exact ⟨rfl, hp⟩
    · exact ⟨p, List.mem_singleton_self p, Option.some.inj hid⟩

theorem transferDevelopment_eq_ok {g : Game} {id : ParcelId} {taker : Option PlayerId}
    {m : Move Unit} (h : g.transferDevelopment id taker = .ok m) :
    (∀ id, taker = some id → ∃ p ∈ g.players.toList, p.id = id) ∧
      ∃ q ∈ g.parcels.toList,
        { g with parcels := g.parcels.put { q with developer := taker } } = m.game := by
  obtain ⟨takers, ht, h⟩ := bind_eq_ok.mp h
  obtain ⟨q, hq, h⟩ := bind_eq_ok.mp h
  obtain ⟨hq, _⟩ := findParcel_eq_ok.mp hq
  refine ⟨?_, q, hq, ?_⟩
  · rintro _ rfl
    rcases eachOf_eq_ok.mp ht with ⟨hn, _⟩ | ⟨_, p, hs, hp, _⟩
    · cases hn
    · cases hs
      exact ⟨p, findPlayer_eq_ok.mp hp⟩
  · split at h
    · rename_i hd
      obtain rfl := Except.ok.inj h
      have hself : { q with developer := taker } = q := by rw [← hd]
      rw [hself, Roll.put_of_mem hq]
    · obtain rfl := Except.ok.inj h
      rfl

inductive Retitled (q : Parcel) (taker : Option PlayerId) (p : Player) : Player → Prop
  | seller (e : Count) (hs : q.waterOwner = some p.id) (hb : taker ≠ some p.id)
      (he : q.rights.val + e.val = p.entitlement.val) :
      Retitled q taker p
        { p with
          entitlement := e
          water := p.water.subDownTo q.water
          rights := p.rights.erase q.id }
  | buyer (e w : Count) (hs : q.waterOwner ≠ some p.id) (hb : taker = some p.id)
      (he : p.entitlement.val + q.rights.val = e.val) (hw : p.water.val + q.water.val = w.val) :
      Retitled q taker p
        { p with entitlement := e, water := w, rights := p.rights.put q.id }
  | other (hs : q.waterOwner ≠ some p.id) (hb : taker ≠ some p.id) : Retitled q taker p p

structure Transferred (g : Game) (q : Parcel) (taker : Option PlayerId) (g' : Game) : Prop where
  round : g'.round = g.round
  assets : g'.assets = g.assets
  ledger : g'.ledger = g.ledger
  parcels : g'.parcels = g.parcels.put { q with waterOwner := taker }
  known : ∀ id, taker = some id → ∃ p ∈ g.players.toList, p.id = id
  players : ∀ p' ∈ g'.players.toList, ∃ p ∈ g.players.toList, Retitled q taker p p'
  remain : ∀ p ∈ g.players.toList, ∃ p' ∈ g'.players.toList, p'.id = p.id

theorem withoutRights_eq_ok {g : Game} {id : PlayerId} {q : Parcel} {p' : Player} :
    g.withoutRights id q = .ok p' ↔ ∃ p ∈ g.players.toList, p.id = id ∧ ∃ e : Count,
      q.rights.val + e.val = p.entitlement.val ∧
        { p with
          entitlement := e
          water := p.water.subDownTo q.water
          rights := p.rights.erase q.id } = p' := by
  simp only [withoutRights, bind_eq_ok, findPlayer_eq_ok]
  refine exists_congr fun p => ?_
  rw [and_assoc]
  refine and_congr_right fun _ => and_congr_right fun _ => ?_
  simp only [← Count.sub?_eq_some]
  cases p.entitlement.sub? q.rights <;> simp

theorem withRights_eq_ok {g : Game} {id : PlayerId} {q : Parcel} {p' : Player} :
    g.withRights id q = .ok p' ↔ ∃ p ∈ g.players.toList, p.id = id ∧ ∃ e w : Count,
      p.entitlement.val + q.rights.val = e.val ∧ p.water.val + q.water.val = w.val ∧
        { p with entitlement := e, water := w, rights := p.rights.put q.id } = p' := by
  simp only [withRights, bind_eq_ok, findPlayer_eq_ok]
  refine exists_congr fun p => ?_
  rw [and_assoc]
  refine and_congr_right fun _ => and_congr_right fun _ => ?_
  simp only [← Count.add?_eq_some]
  cases p.entitlement.add? q.rights <;> cases p.water.add? q.water <;> simp

theorem withoutRights_id {g : Game} {id : PlayerId} {q : Parcel} {p : Player}
    (h : g.withoutRights id q = .ok p) : p.id = id := by
  obtain ⟨p, _, rfl, _, _, rfl⟩ := withoutRights_eq_ok.mp h
  rfl

theorem withRights_id {g : Game} {id : PlayerId} {q : Parcel} {p : Player}
    (h : g.withRights id q = .ok p) : p.id = id := by
  obtain ⟨p, _, rfl, _, _, _, _, rfl⟩ := withRights_eq_ok.mp h
  rfl

section

variable {g : Game} {q : Parcel} {taker : Option PlayerId} {sellers buyers : List Player}

theorem nodup_parties (ho : q.waterOwner ≠ taker)
    (hs : eachOf (g.withoutRights · q) q.waterOwner = .ok sellers)
    (hb : eachOf (g.withRights · q) taker = .ok buyers) : ((sellers ++ buyers).map key).Nodup := by
  obtain ⟨hs, _, hsNodup⟩ := eachOf_players (fun _ _ => withoutRights_id) hs
  obtain ⟨hb, _, hbNodup⟩ := eachOf_players (fun _ _ => withRights_id) hb
  rw [List.map_append]
  refine hsNodup.append hbNodup fun k hks hkb => ho ?_
  obtain ⟨s, hsm, rfl⟩ := List.mem_map.mp hks
  obtain ⟨b, hbm, hk⟩ := List.mem_map.mp hkb
  have hk : b.id = s.id := hk
  rw [(hs s hsm).1, (hb b hbm).1, hk]

theorem known_parties (hs : eachOf (g.withoutRights · q) q.waterOwner = .ok sellers)
    (hb : eachOf (g.withRights · q) taker = .ok buyers) :
    ∀ p ∈ sellers ++ buyers, g.players.contains p.id = true := by
  obtain ⟨hs, _⟩ := eachOf_players (fun _ _ => withoutRights_id) hs
  obtain ⟨hb, _⟩ := eachOf_players (fun _ _ => withRights_id) hb
  intro p hp
  rw [Roll.contains_iff]
  rcases List.mem_append.mp hp with hp | hp
  · obtain ⟨p', hp', hid, _⟩ := withoutRights_eq_ok.mp (hs p hp).2
    exact ⟨p', hp', hid⟩
  · obtain ⟨p', hp', hid, _⟩ := withRights_eq_ok.mp (hb p hp).2
    exact ⟨p', hp', hid⟩

end

theorem transferWater_eq_ok {g : Game} {id : ParcelId} {taker : Option PlayerId} {m : Move Unit}
    (h : g.transferWater id taker = .ok m) :
    ∃ q ∈ g.parcels.toList, q.id = id ∧
      ((q.waterOwner = taker ∧ g = m.game) ∨
        (q.waterOwner ≠ taker ∧ Transferred g q taker m.game)) := by
  obtain ⟨q, hq, h⟩ := bind_eq_ok.mp h
  obtain ⟨hq, hid⟩ := findParcel_eq_ok.mp hq
  refine ⟨q, hq, hid, ?_⟩
  split at h
  · rename_i ho
    exact Or.inl ⟨ho, congrArg Move.game (Except.ok.inj h)⟩
  rename_i ho
  refine Or.inr ⟨ho, ?_⟩
  obtain ⟨sellers, hs, h⟩ := bind_eq_ok.mp h
  obtain ⟨buyers, hb, h⟩ := bind_eq_ok.mp h
  obtain rfl := Except.ok.inj h
  have hnodup := nodup_parties ho hs hb
  obtain ⟨hs, hsOwner, _⟩ := eachOf_players (fun _ _ => withoutRights_id) hs
  obtain ⟨hb, hbOwner, _⟩ := eachOf_players (fun _ _ => withRights_id) hb
  have hmem := fun p' => Roll.mem_foldl_put hnodup (r := g.players) (a := p')
  refine ⟨rfl, rfl, rfl, rfl, fun id hid => ?_, fun p' hp' => ?_, fun p hp => ?_⟩
  · obtain ⟨b, hbm, rfl⟩ := hbOwner id hid
    obtain ⟨p, hp, hpid, _⟩ := withRights_eq_ok.mp (hb b hbm).2
    exact ⟨p, hp, hpid⟩
  · rcases (hmem p').mp hp' with hl | ⟨hp, hne⟩
    · rcases List.mem_append.mp hl with hl | hl
      · obtain ⟨howner, hmade⟩ := hs p' hl
        obtain ⟨p, hp, hpid, e, he, rfl⟩ := withoutRights_eq_ok.mp hmade
        exact ⟨p, hp, .seller e howner (fun hb => ho (howner.trans hb.symm)) he⟩
      · obtain ⟨howner, hmade⟩ := hb p' hl
        obtain ⟨p, hp, hpid, e, w, he, hw, rfl⟩ := withRights_eq_ok.mp hmade
        exact ⟨p, hp, .buyer e w (fun hs => ho (hs.trans howner.symm)) howner he hw⟩
    · refine ⟨p', hp, .other (fun hs => ?_) fun hb => ?_⟩
      · obtain ⟨s, hsm, hsid⟩ := hsOwner p'.id hs
        exact hne s (List.mem_append_left _ hsm) hsid.symm
      · obtain ⟨b, hbm, hbid⟩ := hbOwner p'.id hb
        exact hne b (List.mem_append_right _ hbm) hbid.symm
  · by_cases hl : ∃ b ∈ sellers ++ buyers, b.id = p.id
    · obtain ⟨b, hbm, hbid⟩ := hl
      exact ⟨b, (hmem b).mpr (Or.inl hbm), hbid⟩
    · exact ⟨p, (hmem p).mpr (Or.inr ⟨hp, fun b hbm hk => hl ⟨b, hbm, hk.symm⟩⟩), rfl⟩

end Watershed.Game
