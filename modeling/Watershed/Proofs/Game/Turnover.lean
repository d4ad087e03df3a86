import Watershed.Proofs.Distribution.Progress
import Watershed.Proofs.Game.Act

namespace Watershed

theorem Distributor.distribute_eq_ok {b : Board} {water : Count} {d : Distributor}
    {r : Distribution} (h : d.distribute b water = .ok r) :
    (d = .fair ∧ Distribution.Fair.distribute? b water = some r) ∨
      (d = .perParcel ∧ Distribution.PerParcel.distribute? b water = some r) ∨
      (d = .playerOnly ∧ Distribution.PlayerOnly.distribute? b water = some r) ∨
      ∃ cap, d = .tiered (some cap) ∧ Distribution.Tiered.distribute? cap b water = some r := by
  cases d with
  | fair => cases hr : Distribution.Fair.distribute? b water <;> simp_all [distribute]
  | perParcel => cases hr : Distribution.PerParcel.distribute? b water <;> simp_all [distribute]
  | playerOnly => cases hr : Distribution.PlayerOnly.distribute? b water <;> simp_all [distribute]
  | tiered cap =>
    cases cap with
    | none => simp [distribute] at h
    | some cap => cases hr : Distribution.Tiered.distribute? cap b water <;> simp_all [distribute]

theorem Distributor.parcels_of_distribute {b : Board} {water : Count} {d : Distributor}
    {r : Distribution} (h : d.distribute b water = .ok r) :
    ∃ f, r.parcels = rewater f b.parcels := by
  have hplan : ∀ (shares : Shares) (p : Plan), ∃ f,
      (Distribution.ofPlan b shares p).parcels = rewater f b.parcels := fun _ p => ⟨p.on, rfl⟩
  rcases distribute_eq_ok h with ⟨_, h⟩ | ⟨_, h⟩ | ⟨_, h⟩ | ⟨cap, _, h⟩
  · obtain ⟨_, _, h⟩ := Option.bind_eq_some_iff.mp h
    obtain ⟨_, _, h⟩ := Option.bind_eq_some_iff.mp h
    exact Option.some.inj h ▸ hplan _ _
  · obtain ⟨_, _, h⟩ := Option.bind_eq_some_iff.mp h
    obtain ⟨_, _, h⟩ := Option.bind_eq_some_iff.mp h
    exact Option.some.inj h ▸ hplan _ _
  · obtain ⟨_, _, h⟩ := Option.bind_eq_some_iff.mp h
    obtain rfl := Option.some.inj h
    refine ⟨fun id => ((b.parcels.find? id).map (·.water)).getD 0, (rewater_self fun q hq => ?_).symm⟩
    have hf : b.parcels.find? q.id = some q := Roll.find?_of_mem hq
    rw [hf]
    rfl
  · obtain ⟨_, _, h⟩ := Option.bind_eq_some_iff.mp h
    exact Option.some.inj h ▸ hplan _ _

namespace Game

theorem wellFormed_resetEntries (g : Game) : ∀ e ∈ g.resetEntries, e.WellFormed := by
  intro e he
  rcases List.mem_append.mp he with he | he
  · obtain ⟨q, hq, rfl⟩ := List.mem_map.mp he
    exact Entry.wellFormed_evaporate q.id (of_decide_eq_true (List.mem_filter.mp hq).2)
  · obtain ⟨a, ha, rfl⟩ := List.mem_map.mp he
    exact Entry.wellFormed_consume a.id (of_decide_eq_true (List.mem_filter.mp ha).2)

theorem settle_cases {round before : Count} {q : Parcel} {e : Entry}
    (he : e ∈ settle round before q) :
    (before < q.water ∧ e = .rainfall round (q.water.subDownTo before) q.id) ∨
      (q.water < before ∧ e = .evaporate round (before.subDownTo q.water) q.id) := by
  unfold settle at he
  split at he
  · rename_i hlt
    exact Or.inl ⟨hlt, List.mem_singleton.mp he⟩
  split at he
  · rename_i hlt
    exact Or.inr ⟨hlt, List.mem_singleton.mp he⟩
  · cases he

theorem wellFormed_settle {round before : Count} {q : Parcel} :
    ∀ e ∈ settle round before q, e.WellFormed := by
  intro e he
  rcases settle_cases he with ⟨hlt, rfl⟩ | ⟨hlt, rfl⟩
  · refine Entry.wellFormed_rainfall q.id ?_
    rw [Count.val_subDownTo]
    exact Nat.sub_pos_of_lt hlt
  · refine Entry.wellFormed_evaporate q.id ?_
    rw [Count.val_subDownTo]
    exact Nat.sub_pos_of_lt hlt

theorem wellFormed_settlements (g : Game) (r : Distribution) :
    ∀ e ∈ g.settlements r, e.WellFormed := by
  intro e he
  obtain ⟨q, _, he⟩ := List.mem_flatMap.mp he
  exact wellFormed_settle e he

theorem recordAll_eq_ok {g : Game} {es : List Entry} {l : Ledger} :
    g.recordAll es = .ok l ↔ (∀ e ∈ es, e.WellFormed) ∧ l = g.ledger.appendAll es := by
  rw [recordAll, mapError_eq_ok, Ledger.recordAll_eq_ok]

theorem reset_eq_ok {g : Game} {m : Move Reset} (h : g.reset = .ok m) :
    (∀ e ∈ g.resetEntries, e.WellFormed) ∧
      ⟨g.dryUp.toBoard, g.round, g.dryUp.assets, g.ledger.appendAll g.resetEntries⟩ = m.game := by
  obtain ⟨_, hl, h⟩ := bind_eq_ok.mp h
  obtain ⟨hw, rfl⟩ := recordAll_eq_ok.mp hl
  obtain rfl := Except.ok.inj h
  exact ⟨hw, rfl⟩

theorem reset_ne_error {g : Game} {e : GameFault} : g.reset ≠ .error e := by
  have hl : g.recordAll g.resetEntries = .ok (g.ledger.appendAll g.resetEntries) :=
    recordAll_eq_ok.mpr ⟨wellFormed_resetEntries g, rfl⟩
  rw [reset, hl]
  intro h
  cases h

theorem distribute_eq_ok {g : Game} {d : Distributor} {water : Count} {m : Move Downpour}
    (h : g.distribute d water = .ok m) :
    ∃ r, d.distribute g.toBoard water = .ok r ∧ (∀ e ∈ g.settlements r, e.WellFormed) ∧
      { g with
        players := g.players.map (fun p => { p with water := r.shares.of p.id }) fun _ => rfl
        parcels := r.parcels
        ledger := g.ledger.appendAll (g.settlements r) } = m.game := by
  obtain ⟨r, hr, h⟩ := bind_eq_ok.mp h
  obtain ⟨_, hl, h⟩ := bind_eq_ok.mp h
  obtain ⟨hw, rfl⟩ := recordAll_eq_ok.mp (mapError_eq_ok.mp hl)
  obtain rfl := Except.ok.inj h
  exact ⟨r, mapError_eq_ok.mp hr, hw, rfl⟩

theorem distribute_eq_error {g : Game} {d : Distributor} {water : Count} {e : DistributionFault} :
    g.distribute d water = .error e ↔
      ∃ f, d.distribute g.toBoard water = .error f ∧ .distributor f = e := by
  rw [distribute, bind_eq_error, mapError_eq_error]
  refine or_iff_left ?_
  rintro ⟨r, _, h⟩
  have hl : g.recordAll (g.settlements r) = .ok (g.ledger.appendAll (g.settlements r)) :=
    recordAll_eq_ok.mpr ⟨wellFormed_settlements g r, rfl⟩
  rw [hl] at h
  cases h

theorem exists_distribute {d : Distributor} (hd : d.Configured) (g : Game) (water : Count) :
    ∃ m, g.distribute d water = .ok m := by
  cases hm : g.distribute d water with
  | ok m => exact ⟨m, rfl⟩
  | error e =>
    obtain ⟨f, hf, _⟩ := distribute_eq_error.mp hm
    obtain ⟨r, hr⟩ := Distributor.exists_distribute hd g.toBoard water
    rw [hr] at hf
    cases hf

end Game
end Watershed
