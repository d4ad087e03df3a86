import Watershed.Proofs.Game.Capacity

namespace Watershed.Game

open Ledger

theorem enteredAs_resetEntries (kind : EntryKind) (g : Game) :
    enteredAs kind g.resetEntries = match kind with
      | .evaporate => g.parcels.sum fun q => q.water.val
      | .consume => g.assets.sum fun a => a.allocated.val
      | _ => 0 := by
  have hparcels : enteredAs kind (g.wetParcels.map fun q => Entry.evaporate g.round q.water q.id) =
      if .evaporate = kind then Count.total (g.wetParcels.map (·.water)) else 0 :=
    enteredAs_map fun _ => rfl
  have hassets : enteredAs kind (g.wetAssets.map fun a => Entry.consume g.round a.allocated a.id) =
      if .consume = kind then Count.total (g.wetAssets.map (·.allocated)) else 0 :=
    enteredAs_map fun _ => rfl
  rw [resetEntries, enteredAs_append, hparcels, hassets, wetParcels, wetAssets, Roll.total_pos,
    Roll.total_pos]
  cases kind <;> simp

structure Booked (g : Game) (round : Count) (before : Nat) : Prop where
  cleared : enteredAs .evaporate (g.ledger.ofRound round) +
    enteredAs .consume (g.ledger.ofRound round) = before
  brought : enteredAs .rainfall (g.ledger.ofRound round) =
    g.volume + enteredAs .forfeit (g.ledger.ofRound round)

variable {g g' : Game} {before : Nat}

theorem Booked.entered {es : List Entry} (h : g.Booked g.round before) (he : Entered g g' es)
    (hes : enteredAs .evaporate es + enteredAs .consume es = 0) : g'.Booked g.round before := by
  have hvolume : g'.volume + drained es = g.volume + enteredAs .rainfall es := he.volume
  rw [drained_eq] at hvolume
  have hround : g'.ledger.ofRound g.round = g.ledger.ofRound g.round ++ es := by
    rw [he.ledger, ofRound_appendAll he.stamped]
  have hcleared := h.cleared
  have hbrought := h.brought
  constructor
  · rw [hround, enteredAs_append, enteredAs_append]
    omega
  · rw [hround, enteredAs_append, enteredAs_append]
    omega

theorem reset_booked {m : Move Reset} (h : g.reset = .ok m)
    (hnew : ∀ e ∈ g.ledger.entries, e.round ≠ g.round) :
    m.game.Booked g.round g.volume ∧ m.game.volume = 0 ∧
      enteredAs .rainfall (m.game.ledger.ofRound g.round) = 0 := by
  have he := reset_entered h
  have hround : m.game.ledger.ofRound g.round = g.resetEntries := by
    rw [he.ledger, ofRound_appendAll he.stamped, ofRound_eq_nil hnew, List.nil_append]
  have hvolume : m.game.volume + drained g.resetEntries =
      g.volume + enteredAs .rainfall g.resetEntries := he.volume
  have hall : drained g.resetEntries = g.volume := by
    simp only [drained_eq, enteredAs_resetEntries, volume, Nat.add_zero]
  have hnone : enteredAs .rainfall g.resetEntries = 0 := enteredAs_resetEntries .rainfall g
  have hdry : m.game.volume = 0 := by omega
  refine ⟨⟨?_, ?_⟩, hdry, ?_⟩
  · simp only [hround, enteredAs_resetEntries, volume]
  · simp only [hround, enteredAs_resetEntries, hdry]
  · rw [hround, hnone]

theorem dry_of_volume (h : g.volume = 0) : (∀ q ∈ g.parcels.toList, q.water = 0) ∧ Idle g := by
  have hparts := Nat.add_eq_zero_iff.mp h
  refine ⟨fun q hq => Count.ext ?_, fun a ha => Count.ext ?_⟩
  · exact Nat.le_zero.mp (hparts.1 ▸ Roll.le_sum hq (f := fun q => q.water.val))
  · exact Nat.le_zero.mp (hparts.2 ▸ Roll.le_sum ha (f := fun a => a.allocated.val))

theorem kind_settlements (h : ∀ q ∈ g.parcels.toList, q.water = 0) {r : Distribution} :
    ∀ e ∈ g.settlements r, e.kind = .rainfall := by
  intro e he
  obtain ⟨q, _, he⟩ := List.mem_flatMap.mp he
  have hdry : g.waterOn q.id = 0 := by
    unfold waterOn
    split
    · rename_i q' hf
      exact h q' (Roll.mem_of_find? hf)
    · rfl
  rcases settle_cases he with ⟨_, rfl⟩ | ⟨hlt, _⟩
  · rfl
  · rw [hdry] at hlt
    exact absurd hlt (Nat.not_lt_zero _)

theorem distribute_booked {d : Distributor} {water : Count} {m : Move Downpour}
    (hg : g.Booked g.round before) (hv : g.volume = 0)
    (hrain : enteredAs .rainfall (g.ledger.ofRound g.round) = 0)
    (h : g.distribute d water = .ok m) :
    m.game.Booked g.round before ∧
      enteredAs .rainfall (m.game.ledger.ofRound g.round) = m.game.volume := by
  obtain ⟨r, he⟩ := distribute_entered h
  have hkind := kind_settlements (dry_of_volume hv).1 (r := r)
  have hnone : ∀ kind, kind ≠ .rainfall → enteredAs kind (g.settlements r) = 0 := fun kind hk => by
    rw [enteredAs_of_forall hkind, if_neg hk.symm]
  have hbooked := hg.entered he (by rw [hnone _ (by simp), hnone _ (by simp)])
  refine ⟨hbooked, hbooked.brought.trans ?_⟩
  have hforfeit := hg.brought
  rw [he.ledger, ofRound_appendAll he.stamped, enteredAs_append, hnone _ (by simp)]
  omega

theorem distributed_eq {d : Distributor} {water : Count} {m : Move Downpour}
    (h : g.distribute d water = .ok m) :
    m.result.distributed = Count.sumUpTo (m.game.players.toList.map (·.water)) := by
  obtain ⟨r, _, h⟩ := bind_eq_ok.mp h
  obtain ⟨_, _, h⟩ := bind_eq_ok.mp h
  obtain rfl := Except.ok.inj h
  simp only [Roll.map, List.map_map]
  rfl

theorem distribute_shared {d : Distributor} {water : Count} {m : Move Downpour} (hg : Spendable g)
    (hv : g.volume = 0) (hd : d.writesParcels = true) (hrights : g.allRights ≤ 18446744073709551615)
    (h : g.distribute d water = .ok m) :
    m.result.distributed.val = Count.total (m.game.players.toList.map (·.water)) ∧
      m.game.volume = Count.total (m.game.players.toList.map (·.water)) +
        Count.total (m.game.toBoard.unowned.map (·.water)) ∧
      m.game.volume ≤ 18446744073709551615 := by
  obtain ⟨_, hidle⟩ := dry_of_volume hv
  have htotal := (distribute_spendable hg hd h).total_water
  have hle := distribute_volume hg.rightful hidle hd h
  rw [(distribute_sameTitles h).allRights] at hle
  have hwater := water.val_lt
  have hassets : (m.game.assets.sum fun a => a.allocated.val) = 0 := by
    obtain ⟨_, _, _, hm⟩ := distribute_eq_ok h
    rw [← hm]
    exact Roll.sum_eq_zero fun a ha => congrArg Count.val (hidle a ha)
  have hvolume : m.game.volume = m.game.parcels.sum fun q => q.water.val := by
    rw [volume, hassets, Nat.add_zero]
  refine ⟨?_, hvolume.trans htotal.symm, by omega⟩
  rw [distributed_eq h, Count.sumUpTo, Count.val_clamp]
  omega

end Watershed.Game
