import Watershed.Proofs.Allocation.Owned
import Watershed.Proofs.Board.Water
import Watershed.Proofs.Ledger.Flow

namespace Watershed

namespace Change

def drawnSum (c : Change) : Nat := Count.total (c.drawn.map (·.2))

def returnedSum (c : Change) : Nat := Count.total (c.returned.map (·.2))

def entries (c : Change) (round : Count) : List Entry :=
  c.drawn.map (fun x => Entry.allocate round x.2 x.1 c.asset c.player) ++
    (c.returned.map (fun x => Entry.giveBack round x.2 c.asset x.1 c.player) ++
      if c.lost = 0 then [] else [Entry.forfeit round c.lost c.asset c.player])

open Allocation in
structure Sound (g : Game) (a : Asset) (p : Player) (c : Change) : Prop where
  asset : c.asset = a.id
  player : c.player = p.id
  previous : c.previous = a.allocated
  drawnNodup : (c.drawn.map (·.1)).Nodup
  drawnPos : ∀ x ∈ c.drawn, 0 < x.2.val
  drawnOwn : ∀ x ∈ c.drawn, ∃ q, Owns g p q ∧ q.id = x.1 ∧ x.2.val ≤ q.water.val
  returnedNodup : (c.returned.map (·.1)).Nodup
  returnedPos : ∀ x ∈ c.returned, 0 < x.2.val
  returnedOwn : ∀ x ∈ c.returned, ∃ q, Owns g p q ∧ q.id = x.1
  moved : c.current.val + c.returnedSum + c.lost.val = a.allocated.val + c.drawnSum
  lostOnly : c.lost ≠ 0 → ∀ q, ¬ Owns g p q

end Change

namespace Allocation

def balanceOr (balances : Plan) (q : Parcel) : Count :=
  match balances.find? q.id with
  | some (_, water) => water
  | none => q.water

structure Proposal.Sound (g : Game) (a : Asset) (p : Player) (n : Count) (d : Proposal) : Prop where
  change : d.change.Sound g a p
  current : d.change.current = n
  entries : d.entries = d.change.entries g.round
  playerWater : d.playerWater.val + d.change.drawnSum = p.water.val + d.change.returnedSum
  balances : ∀ q ∈ g.parcels.toList,
    (balanceOr d.balances q).val + amountAt d.change.drawn q.id =
      q.water.val + amountAt d.change.returned q.id

theorem balanceOr_ofList {l : List (ParcelId × Count)} (hl : (l.map (·.1)).Nodup)
    (f : ParcelId × Count → Count) (q : Parcel) :
    (∃ x ∈ l, x.1 = q.id ∧ balanceOr (.ofList (l.map fun x => (x.1, f x))) q = f x) ∨
      (∀ x ∈ l, x.1 ≠ q.id) ∧ balanceOr (.ofList (l.map fun x => (x.1, f x))) q = q.water := by
  have hn : ((l.map fun x => (x.1, f x)).map key).Nodup := by
    rwa [List.map_map]
  unfold balanceOr
  cases hf : (Roll.ofList (l.map fun x => (x.1, f x))).find? q.id with
  | none =>
    refine Or.inr ⟨fun x hx e => ?_, rfl⟩
    refine Roll.find?_eq_none.mp hf (x.1, f x) ?_ e
    exact (Roll.mem_ofList_of_nodup hn).mpr (List.mem_map_of_mem hx)
  | some y =>
    obtain ⟨x, hx, rfl⟩ := List.mem_map.mp ((Roll.mem_ofList_of_nodup hn).mp (Roll.mem_of_find? hf))
    exact Or.inl ⟨x, hx, Roll.key_of_find? hf, rfl⟩

theorem increase_sound {g : Game} {a : Asset} {p : Player} {n : Count} {d : Proposal}
    (hn : a.allocated.val < n.val) (h : increase g a p n = .ok d) : d.Sound g a p n := by
  simp only [increase] at h
  split at h
  · cases h
  rename_i hwater
  obtain ⟨drawn, hdraw, hd⟩ := bind_eq_ok.mp h
  have hs := draw_eq_ok (mapError_eq_ok.mp hdraw)
  obtain rfl := Except.ok.inj hd
  have hown : ∀ x ∈ drawn, ∃ q, Owns g p q ∧ q.id = x.1 ∧ x.2.val ≤ q.water.val := by
    intro x hx
    have hw := hs.within x hx
    have hm := Plan.mem_of_on_pos (Nat.lt_of_lt_of_le (hs.pos x hx) hw)
    obtain ⟨q, hq, he⟩ := mem_ownedWater.mp hm
    obtain ⟨hid, hqw⟩ := Prod.mk.inj he
    exact ⟨q, hq, hid, hqw ▸ hw⟩
  have htotal : Count.total (drawn.map (·.2)) + a.allocated.val = n.val := by
    rw [hs.total, Count.val_subDownTo]
    omega
  have hle : ¬ p.water.val < n.val - a.allocated.val := hwater
  refine ⟨⟨rfl, rfl, rfl, hs.nodup, hs.pos, hown, List.nodup_nil, by simp [Change.unchanged],
    by simp [Change.unchanged], ?_, by simp [Change.unchanged]⟩, rfl, ?_, ?_, fun q hq => ?_⟩
  · simp only [Change.returnedSum, Change.drawnSum, Change.unchanged, List.map_nil, Count.total,
      Count.val_zero]
    omega
  · simp [Change.entries, Change.unchanged]
  · simp only [Change.returnedSum, Change.drawnSum, Change.unchanged, List.map_nil, Count.total,
      Count.val_subDownTo]
    omega
  · rcases balanceOr_ofList hs.nodup (fun x => ((ownedWater g p).on x.1).subDownTo x.2) q with
      ⟨x, hx, hid, hb⟩ | ⟨hnot, hb⟩
    · obtain ⟨q', hq', hid', hqw⟩ := hown x hx
      obtain rfl : q' = q := Roll.eq_of_key hq'.1 hq (hid'.trans hid)
      rw [hb, ← hid, amountAt_of_mem hs.nodup hx, hid, hq'.on_ownedWater, Count.val_subDownTo]
      simp only [Change.unchanged, amountAt_nil]
      omega
    · rw [hb, amountAt_of_not_mem hnot]
      simp [Change.unchanged]

theorem refill?_eq_some {owned : Plan} {targets : List (ParcelId × Count)} {balances : Plan}
    (h : refill? owned targets = some balances) :
    balances = .ofList (targets.map fun x => (x.1, (owned.on x.1).addUpTo x.2)) ∧
      ∀ x ∈ targets, ((owned.on x.1).addUpTo x.2).val = (owned.on x.1).val + x.2.val := by
  obtain ⟨l, hl, rfl⟩ := Option.map_eq_some_iff.mp h
  obtain ⟨f, hf, rfl⟩ := mapM_eq_some.mp hl
  have hsum : ∀ x ∈ targets, f x = (x.1, (owned.on x.1).addUpTo x.2) ∧
      ((owned.on x.1).addUpTo x.2).val = (owned.on x.1).val + x.2.val := by
    intro x hx
    obtain ⟨c, hc, hfx⟩ := Option.map_eq_some_iff.mp (hf x hx)
    have hv := Count.add?_eq_some.mp hc
    have hlt := c.val_lt
    have hval : ((owned.on x.1).addUpTo x.2).val = (owned.on x.1).val + x.2.val := by
      rw [Count.val_addUpTo]
      omega
    exact ⟨by rw [← hfx, Count.ext (hval.trans hv)], hval⟩
  exact ⟨congrArg Roll.ofList (List.map_congr_left fun x hx => (hsum x hx).1),
    fun x hx => (hsum x hx).2⟩

theorem decrease_sound {g : Game} {a : Asset} {p : Player} {n : Count} {d : Proposal}
    (hn : n.val < a.allocated.val) (h : decrease g a p n = .ok d) : d.Sound g a p n := by
  have hsurplus : 0 < (a.allocated.subDownTo n).val := by
    rw [Count.val_subDownTo]
    omega
  simp only [decrease] at h
  split at h
  · rename_i hnil
    obtain rfl := Except.ok.inj h
    have hsize := ownedWater_size_eq_zero.mp ((giveBack_eq_nil_iff hsurplus).mp hnil)
    have hlost : a.allocated.subDownTo n ≠ 0 := fun e => by simp [e] at hsurplus
    refine ⟨⟨rfl, rfl, rfl, List.nodup_nil, by simp [Change.unchanged], by simp [Change.unchanged],
      List.nodup_nil, by simp [Change.unchanged], by simp [Change.unchanged], ?_,
      fun _ => hsize⟩, rfl, ?_, ?_, fun q _ => ?_⟩
    · simp only [Change.returnedSum, Change.drawnSum, Change.unchanged, List.map_nil, Count.total,
        Count.val_subDownTo]
      omega
    · simp [Change.entries, Change.unchanged, hlost]
    · simp [Change.returnedSum, Change.drawnSum, Change.unchanged]
    · simp [Change.unchanged, balanceOr, Roll.empty, Roll.find?, Roll.seek]
  · rename_i hne
    have hsize : (ownedWater g p).size ≠ 0 := fun e => hne (giveBack_eq_nil e)
    have hs := giveBack_spec a.parcel hsize hsurplus
    split at h
    · rename_i balances water hb hw
      obtain rfl := Except.ok.inj h
      obtain ⟨rfl, hval⟩ := refill?_eq_some hb
      have hwater := Count.add?_eq_some.mp hw
      have htotal := hs.total
      rw [Count.val_subDownTo] at hwater htotal
      have hown : ∀ x ∈ giveBack (ownedWater g p) a.parcel (a.allocated.subDownTo n),
          ∃ q, Owns g p q ∧ q.id = x.1 := fun x hx => contains_ownedWater.mp (hs.known x hx)
      refine ⟨⟨rfl, rfl, rfl, List.nodup_nil, by simp [Change.unchanged],
        by simp [Change.unchanged], hs.nodup, hs.pos, hown, ?_, by simp [Change.unchanged]⟩,
        rfl, ?_, ?_, fun q hq => ?_⟩
      · simp only [Change.returnedSum, Change.drawnSum, Change.unchanged, List.map_nil, Count.total,
          Count.val_zero, htotal]
        omega
      · simp [Change.entries, Change.unchanged]
      · simp only [Change.returnedSum, Change.drawnSum, Change.unchanged, List.map_nil, Count.total,
          htotal]
        omega
      · rcases balanceOr_ofList hs.nodup (fun x => ((ownedWater g p).on x.1).addUpTo x.2) q with
          ⟨x, hx, hid, hbal⟩ | ⟨hnot, hbal⟩
        · obtain ⟨q', hq', hid'⟩ := hown x hx
          obtain rfl : q' = q := Roll.eq_of_key hq'.1 hq (hid'.trans hid)
          rw [hbal, hval x hx, ← hid, amountAt_of_mem hs.nodup hx, hid, hq'.on_ownedWater]
          simp only [Change.unchanged, amountAt_nil]
          omega
        · rw [hbal, amountAt_of_not_mem hnot]
          simp [Change.unchanged]
    · cases h

def propose (g : Game) (a : Asset) (p : Player) (n : Count) : Except AllocationFault Proposal :=
  if a.allocated < n then increase g a p n else decrease g a p n

theorem propose_sound {g : Game} {a : Asset} {p : Player} {n : Count} {d : Proposal}
    (hn : n ≠ a.allocated) (h : propose g a p n = .ok d) : d.Sound g a p n := by
  have hne : n.val ≠ a.allocated.val := fun e => hn (Count.ext e)
  unfold propose at h
  split at h
  · rename_i hlt
    exact increase_sound hlt h
  · rename_i hlt
    have hlt : ¬ a.allocated.val < n.val := hlt
    exact decrease_sound (by omega) h

theorem propose_touched {g : Game} {a : Asset} {p : Player} {n : Count} {d : Proposal}
    (h : propose g a p n = .ok d) {k : ParcelId} (hk : k ∈ d.balances.keys) :
    (∃ x ∈ d.change.drawn, x.1 = k) ∨ ∃ x ∈ d.change.returned, x.1 = k := by
  have hlist : ∀ {l : List (ParcelId × Count)} {f : ParcelId × Count → Count},
      k ∈ (Roll.ofList (l.map fun x => (x.1, f x))).keys → ∃ x ∈ l, x.1 = k := by
    intro l f hk
    obtain ⟨y, hy, hyk⟩ := Roll.contains_ofList.mp (Roll.mem_keys.mp hk)
    obtain ⟨x, hx, rfl⟩ := List.mem_map.mp hy
    exact ⟨x, hx, hyk⟩
  unfold propose at h
  split at h
  · simp only [increase] at h
    split at h
    · cases h
    obtain ⟨drawn, _, hd⟩ := bind_eq_ok.mp h
    obtain rfl := Except.ok.inj hd
    exact Or.inl (hlist hk)
  · simp only [decrease] at h
    split at h
    · obtain rfl := Except.ok.inj h
      cases hk
    split at h
    · rename_i balances water hb _
      obtain rfl := Except.ok.inj h
      obtain ⟨rfl, _⟩ := refill?_eq_some hb
      exact Or.inr (hlist hk)
    · cases h

theorem propose_known {g : Game} {a : Asset} {p : Player} {n : Count} {d : Proposal}
    (hn : n ≠ a.allocated) (h : propose g a p n = .ok d) :
    ∀ k ∈ d.balances.keys, g.parcels.contains k = true := by
  intro k hk
  have hs := (propose_sound hn h).change
  rw [Roll.contains_iff]
  rcases propose_touched h hk with ⟨x, hx, rfl⟩ | ⟨x, hx, rfl⟩
  · obtain ⟨q, ho, hid, _⟩ := hs.drawnOwn x hx
    exact ⟨q, ho.1, hid⟩
  · obtain ⟨q, ho, hid⟩ := hs.returnedOwn x hx
    exact ⟨q, ho.1, hid⟩

structure Carried (g : Game) (a : Asset) (p : Player) (m : Move Change) : Prop where
  sound : m.result.Sound g a p
  round : m.game.round = g.round
  ledger : m.game.ledger = g.ledger.appendAll (m.result.entries g.round)
  wellFormed : ∀ e ∈ m.result.entries g.round, e.WellFormed
  assets : m.game.assets = g.assets.put { a with allocated := m.result.current }
  players : ∃ water : Count, m.game.players = g.players.put { p with water := water } ∧
    water.val + m.result.drawnSum = p.water.val + m.result.returnedSum
  parcels : ∃ water : ParcelId → Count, m.game.parcels = rewater water g.parcels ∧
    ∀ q ∈ g.parcels.toList, (water q.id).val + amountAt m.result.drawn q.id =
      q.water.val + amountAt m.result.returned q.id

theorem commit_carried {g : Game} {a : Asset} {p : Player} {n : Count} {d : Proposal}
    {m : Move Change} (hd : d.Sound g a p n) (h : commit g a p d = .ok m) :
    m.result.current = n ∧ Carried g a p m := by
  obtain ⟨ledger, hl, hm⟩ := bind_eq_ok.mp h
  obtain ⟨hwf, rfl⟩ := Ledger.recordAll_eq_ok.mp (mapError_eq_ok.mp hl)
  obtain rfl := Except.ok.inj hm
  rw [hd.entries] at hwf
  refine ⟨hd.current, hd.change, rfl, by rw [hd.entries], hwf, rfl,
    ⟨d.playerWater, rfl, hd.playerWater⟩, ?_⟩
  have hwater : ∀ q ∈ g.parcels.toList,
      ((g.parcels.find? q.id).map (balanceOr d.balances)).getD 0 = balanceOr d.balances q := by
    intro q hq
    have hf : g.parcels.find? q.id = some q := Roll.find?_of_mem hq
    rw [hf]
    rfl
  refine ⟨fun id => ((g.parcels.find? id).map (balanceOr d.balances)).getD 0, ?_, fun q hq => ?_⟩
  · refine Roll.ext (List.map_congr_left fun q hq => ?_)
    simp only [hwater q hq, balanceOr]
    cases d.balances.find? q.id <;> rfl
  · simp only [hwater q hq]
    exact hd.balances q hq

theorem carried_unchanged {g : Game} {a : Asset} {p : Player} (ha : a ∈ g.assets.toList)
    (hp : p ∈ g.players.toList) :
    Carried g a p ⟨g, [], .unchanged a.id p.id a.allocated⟩ := by
  refine ⟨⟨rfl, rfl, rfl, List.nodup_nil, by simp [Change.unchanged], by simp [Change.unchanged],
    List.nodup_nil, by simp [Change.unchanged], by simp [Change.unchanged], ?_,
    by simp [Change.unchanged]⟩, rfl, ?_, ?_, ?_, ⟨p.water, ?_, ?_⟩, ?_⟩
  · simp [Change.returnedSum, Change.drawnSum, Change.unchanged]
  · simp [Change.entries, Change.unchanged]
  · simp [Change.entries, Change.unchanged]
  · exact (Roll.put_of_mem ha).symm
  · exact (Roll.put_of_mem hp).symm
  · simp [Change.returnedSum, Change.drawnSum, Change.unchanged]
  · have hwater : ∀ q ∈ g.parcels.toList, ((g.parcels.find? q.id).map (·.water)).getD 0 = q.water := by
      intro q hq
      have hf : g.parcels.find? q.id = some q := Roll.find?_of_mem hq
      rw [hf]
      rfl
    refine ⟨fun id => ((g.parcels.find? id).map (·.water)).getD 0, (rewater_self hwater).symm, ?_⟩
    intro q hq
    simp only [hwater q hq, Change.unchanged, amountAt_nil]

theorem check_eq_ok {a : Asset} {p : Player} {n : Count} {u : Unit} :
    check a p n = .ok u ↔
      a.owner = p.id ∧ n.val ≤ a.usage.val ∧ (a.divisible = false → n = 0 ∨ n = a.usage) := by
  have husage : a.usage < n ↔ ¬ n.val ≤ a.usage.val := Nat.not_le.symm
  have hdivisible : (a.divisible = false ∧ n ≠ 0 ∧ n ≠ a.usage) ↔
      ¬ (a.divisible = false → n = 0 ∨ n = a.usage) := by
    rw [Classical.not_imp, not_or]
  simp only [check, husage, hdivisible]
  by_cases ho : a.owner = p.id
  · by_cases hu : n.val ≤ a.usage.val
    · by_cases hd : a.divisible = false → n = 0 ∨ n = a.usage
      · rw [if_neg (not_not.mpr ho), if_neg (not_not.mpr hu), if_neg (not_not.mpr hd)]
        exact iff_of_true rfl ⟨ho, hu, hd⟩
      · rw [if_neg (not_not.mpr ho), if_neg (not_not.mpr hu), if_pos hd]
        exact iff_of_false (by simp) fun h => hd h.2.2
    · rw [if_neg (not_not.mpr ho), if_pos hu]
      exact iff_of_false (by simp) fun h => hu h.2.1
  · rw [if_pos ho]
    exact iff_of_false (by simp) fun h => ho h.1

end Allocation

theorem Game.changeAllocation_eq (g : Game) (asset : AssetId) (player : PlayerId) (n : Count) :
    g.changeAllocation asset player n = match g.players.find? player, g.assets.find? asset with
      | none, _ => .error (.playerNotFound player)
      | _, none => .error (.assetNotFound asset)
      | some p, some a => Allocation.check a p n >>= fun _ =>
        if n = a.allocated then .ok ⟨g, [], .unchanged asset player a.allocated⟩
        else Allocation.propose g a p n >>= Allocation.commit g a p := by
  unfold changeAllocation Allocation.propose
  cases g.players.find? player with
  | none => rfl
  | some p =>
    cases g.assets.find? asset with
    | none => rfl
    | some a => by_cases hlt : a.allocated < n <;> simp only [hlt, if_true, if_false]

theorem Game.changeAllocation_eq_ok {g : Game} {asset : AssetId} {player : PlayerId} {n : Count}
    {m : Move Change} (h : g.changeAllocation asset player n = .ok m) :
    ∃ p a, g.players.find? player = some p ∧ g.assets.find? asset = some a ∧
      a.owner = p.id ∧ n.val ≤ a.usage.val ∧ (a.divisible = false → n = 0 ∨ n = a.usage) ∧
      m.result.current = n ∧ Allocation.Carried g a p m := by
  rw [changeAllocation_eq] at h
  split at h
  · cases h
  · cases h
  rename_i p a hp ha
  obtain ⟨_, hcheck, h⟩ := bind_eq_ok.mp h
  obtain ⟨howner, husage, hdivisible⟩ := Allocation.check_eq_ok.mp hcheck
  refine ⟨p, a, hp, ha, howner, husage, hdivisible, ?_⟩
  split at h
  · rename_i hn
    obtain rfl := Except.ok.inj h
    obtain rfl : p.id = player := Roll.key_of_find? hp
    obtain rfl : a.id = asset := Roll.key_of_find? ha
    exact ⟨hn.symm, Allocation.carried_unchanged (Roll.mem_of_find? ha) (Roll.mem_of_find? hp)⟩
  · rename_i hn
    obtain ⟨d, hd, hcommit⟩ := bind_eq_ok.mp h
    exact Allocation.commit_carried (Allocation.propose_sound hn hd) hcommit

end Watershed
