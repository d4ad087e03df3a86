import Watershed.Proofs.Game.Dealing
import Watershed.Proofs.Game.Turnover

namespace Watershed

namespace Ledger

theorem given_map {α : Type} (f : α → Entry) (l : List α) (s : Side) :
    given (l.map f) s = (l.map fun x => (f x).leaving s).sum := by
  rw [given, List.map_map]
  rfl

theorem received_map {α : Type} (f : α → Entry) (l : List α) (s : Side) :
    received (l.map f) s = (l.map fun x => (f x).arriving s).sum := by
  rw [received, List.map_map]
  rfl

theorem given_flatMap {α : Type} (f : α → List Entry) (l : List α) (s : Side) :
    given (l.flatMap f) s = (l.map fun x => given (f x) s).sum := by
  induction l with
  | nil => rfl
  | cons x l ih => rw [List.flatMap_cons, given_append, ih, List.map_cons, List.sum_cons]

theorem received_flatMap {α : Type} (f : α → List Entry) (l : List α) (s : Side) :
    received (l.flatMap f) s = (l.map fun x => received (f x) s).sum := by
  induction l with
  | nil => rfl
  | cons x l ih => rw [List.flatMap_cons, received_append, ih, List.map_cons, List.sum_cons]

end Ledger

namespace Game

open Ledger

def holding (g : Game) (s : Side) : Nat :=
  (g.parcels.sum fun q => if .parcel q.id = s then q.water.val else 0) +
    g.assets.sum fun a => if .asset a.id = s then a.allocated.val else 0

structure Entered (g g' : Game) (es : List Entry) : Prop where
  ledger : g'.ledger = g.ledger.appendAll es
  wellFormed : ∀ e ∈ es, e.WellFormed
  stamped : ∀ e ∈ es, e.round = g.round
  sides : ∀ s, s.holds = true → g'.holding s + given es s = g.holding s + received es s

theorem Entered.of_holding {g g' : Game} (hl : g'.ledger = g.ledger)
    (hs : ∀ s, g'.holding s = g.holding s) : Entered g g' [] where
  ledger := by rw [hl, appendAll_nil]
  wellFormed := by simp
  stamped := by simp
  sides s _ := by rw [hs, given_nil, received_nil]

theorem Entered.forall_entries {g g' : Game} {es : List Entry} (h : Entered g g' es)
    {P : Entry → Prop} (hold : ∀ e ∈ g.ledger.entries, P e) (hnew : ∀ e ∈ es, P e) :
    ∀ e ∈ g'.ledger.entries, P e := by
  intro e he
  rw [h.ledger, entries_appendAll] at he
  rcases List.mem_append.mp he with he | he
  · exact hold e he
  · exact hnew e he

theorem holding_dryUp (g : Game) (s : Side) : g.dryUp.holding s = 0 := by
  simp [holding, dryUp, Roll.sum_map, Roll.sum_zero]

theorem given_resetEntries (g : Game) (s : Side) : given g.resetEntries s = g.holding s := by
  have hp : given (g.wetParcels.map fun p => Entry.evaporate g.round p.water p.id) s =
      g.parcels.sum fun q => if .parcel q.id = s then q.water.val else 0 := by
    rw [given_map, wetParcels, sum_filter_of]
    · rfl
    · intro q _ hq
      have hq : ¬ 0 < q.water.val := of_decide_eq_false hq
      simp only [Entry.leaving, Entry.evaporate, Nat.eq_zero_of_not_pos hq, ite_self]
  have ha : given (g.wetAssets.map fun a => Entry.consume g.round a.allocated a.id) s =
      g.assets.sum fun a => if .asset a.id = s then a.allocated.val else 0 := by
    rw [given_map, wetAssets, sum_filter_of]
    · rfl
    · intro a _ ha
      have ha : ¬ 0 < a.allocated.val := of_decide_eq_false ha
      simp only [Entry.leaving, Entry.consume, Nat.eq_zero_of_not_pos ha, ite_self]
  rw [resetEntries, given_append, hp, ha, holding]

theorem target_resetEntries {g : Game} {e : Entry} (he : e ∈ g.resetEntries) :
    e.round = g.round ∧ e.target = .void := by
  rcases List.mem_append.mp he with he | he
  · obtain ⟨q, _, rfl⟩ := List.mem_map.mp he
    exact ⟨rfl, rfl⟩
  · obtain ⟨a, _, rfl⟩ := List.mem_map.mp he
    exact ⟨rfl, rfl⟩

theorem received_eq_zero {es : List Entry} {s : Side} (h : ∀ e ∈ es, e.target ≠ s) :
    received es s = 0 := by
  refine List.sum_eq_zero fun n hn => ?_
  obtain ⟨e, he, rfl⟩ := List.mem_map.mp hn
  exact if_neg (h e he)

theorem reset_entered {g : Game} {m : Move Reset} (h : g.reset = .ok m) :
    Entered g m.game g.resetEntries := by
  obtain ⟨hw, hg⟩ := reset_eq_ok h
  rw [← hg]
  refine ⟨rfl, hw, fun e he => (target_resetEntries he).1, fun s hs => ?_⟩
  have hr : received g.resetEntries s = 0 := received_eq_zero fun e he ht => by
    rw [← ht, (target_resetEntries he).2] at hs
    cases hs
  rw [hr, given_resetEntries, Nat.add_zero]
  exact (congrArg (· + g.holding s) (holding_dryUp g s)).trans (Nat.zero_add _)

theorem settle_sides {round before : Count} {p : Parcel} {s : Side} (hs : s.holds = true) :
    (if .parcel p.id = s then p.water.val else 0) + given (settle round before p) s =
      (if .parcel p.id = s then before.val else 0) + received (settle round before p) s := by
  have hworld : Side.world ≠ s := fun e => by cases e; cases hs
  have hvoid : Side.void ≠ s := fun e => by cases e; cases hs
  by_cases hlt : before < p.water
  · rw [settle, if_pos hlt]
    have hlt : before.val < p.water.val := hlt
    simp only [given, received, Entry.leaving, Entry.arriving, Entry.rainfall, List.map_cons,
      List.map_nil, List.sum_cons, List.sum_nil, if_neg hworld, Count.val_subDownTo]
    split <;> omega
  · by_cases hgt : p.water < before
    · rw [settle, if_neg hlt, if_pos hgt]
      have hgt : p.water.val < before.val := hgt
      simp only [given, received, Entry.leaving, Entry.arriving, Entry.evaporate, List.map_cons,
        List.map_nil, List.sum_cons, List.sum_nil, if_neg hvoid, Count.val_subDownTo]
      split <;> omega
    · rw [settle, if_neg hlt, if_neg hgt, given_nil, received_nil]
      have heq : p.water = before := Count.ext (Nat.le_antisymm (Nat.not_lt.mp hlt) (Nat.not_lt.mp hgt))
      rw [heq]

theorem settle_stamped {round before : Count} {p : Parcel} {e : Entry}
    (he : e ∈ settle round before p) : e.round = round := by
  rcases settle_cases he with ⟨_, rfl⟩ | ⟨_, rfl⟩ <;> rfl

theorem distribute_entered {g : Game} {d : Distributor} {water : Count} {m : Move Downpour}
    (h : g.distribute d water = .ok m) : ∃ r, Entered g m.game (g.settlements r) := by
  obtain ⟨r, hr, hw, hg⟩ := distribute_eq_ok h
  rw [← hg]
  obtain ⟨f, hf⟩ := Distributor.parcels_of_distribute hr
  refine ⟨r, rfl, hw, fun e he => ?_, fun s hs => ?_⟩
  · obtain ⟨q, _, he⟩ := List.mem_flatMap.mp he
    exact settle_stamped he
  · have hbefore : ∀ q ∈ r.parcels.toList,
        (if .parcel q.id = s then q.water.val else 0) + given (settle g.round (g.waterOn q.id) q) s =
          (if .parcel q.id = s then (g.waterOn q.id).val else 0) +
            received (settle g.round (g.waterOn q.id) q) s := fun q _ => settle_sides hs
    have hold : (r.parcels.sum fun q => if .parcel q.id = s then (g.waterOn q.id).val else 0) =
        g.parcels.sum fun q => if .parcel q.id = s then q.water.val else 0 := by
      rw [hf, sum_rewater]
      refine Roll.sum_congr fun q hq => ?_
      have hq : g.parcels.find? q.id = some q := Roll.find?_of_mem hq
      simp only [waterOn, hq]
    have hsum := Roll.sum_congr hbefore
    rw [Roll.sum_add, Roll.sum_add, hold] at hsum
    have hgiven : given (g.settlements r) s =
        r.parcels.sum fun q => given (settle g.round (g.waterOn q.id) q) s := given_flatMap ..
    have hreceived : received (g.settlements r) s =
        r.parcels.sum fun q => received (settle g.round (g.waterOn q.id) q) s := received_flatMap ..
    simp only [holding, hgiven, hreceived]
    omega

theorem given_change (c : Change) (round : Count) (s : Side) :
    given (c.entries round) s =
      (c.drawn.map fun x => if .parcel x.1 = s then x.2.val else 0).sum +
        if .asset c.asset = s then c.returnedSum + c.lost.val else 0 := by
  have hlost : given (if c.lost = 0 then [] else [Entry.forfeit round c.lost c.asset c.player]) s =
      if .asset c.asset = s then c.lost.val else 0 := by
    by_cases hl : c.lost = 0
    · simp [hl]
    · rw [if_neg hl]
      simp [given, Entry.leaving, Entry.forfeit]
  have hreturned := sum_amounts_if (.asset c.asset = s) c.returned
  rw [Change.entries, given_append, given_append, given_map, given_map, hlost]
  refine congrArg _ ((congrArg (· + _) hreturned).trans ?_)
  by_cases hs : Side.asset c.asset = s
  · simp only [if_pos hs, Change.returnedSum]
  · simp only [if_neg hs]

theorem received_change {c : Change} {round : Count} {s : Side} (hs : s.holds = true) :
    received (c.entries round) s =
      (c.returned.map fun x => if .parcel x.1 = s then x.2.val else 0).sum +
        if .asset c.asset = s then c.drawnSum else 0 := by
  have hvoid : Side.void ≠ s := fun e => by cases e; cases hs
  have hlost : received (if c.lost = 0 then [] else [Entry.forfeit round c.lost c.asset c.player]) s =
      0 := by
    by_cases hl : c.lost = 0
    · simp [hl]
    · rw [if_neg hl]
      simp [received, Entry.arriving, Entry.forfeit, hvoid]
  have hdrawn := sum_amounts_if (.asset c.asset = s) c.drawn
  rw [Change.entries, received_append, received_append, received_map, received_map, hlost,
    Nat.add_zero, Nat.add_comm]
  exact congrArg _ hdrawn

theorem enteredAs_change (kind : EntryKind) (c : Change) (round : Count) :
    enteredAs kind (c.entries round) = match kind with
      | .allocate => c.drawnSum
      | .giveBack => c.returnedSum
      | .forfeit => c.lost.val
      | _ => 0 := by
  have hdrawn : enteredAs kind (c.drawn.map fun x => Entry.allocate round x.2 x.1 c.asset c.player) =
      if .allocate = kind then c.drawnSum else 0 := enteredAs_map fun _ => rfl
  have hreturned : enteredAs kind
      (c.returned.map fun x => Entry.giveBack round x.2 c.asset x.1 c.player) =
      if .giveBack = kind then c.returnedSum else 0 := enteredAs_map fun _ => rfl
  have hlost : enteredAs kind
      (if c.lost = 0 then [] else [Entry.forfeit round c.lost c.asset c.player]) =
      if .forfeit = kind then c.lost.val else 0 := by
    by_cases hl : c.lost = 0
    · simp [hl, enteredAs, quantitySum, Count.total]
    · have hkind : ∀ e ∈ [Entry.forfeit round c.lost c.asset c.player], e.kind = .forfeit := by
        simp [Entry.forfeit]
      rw [if_neg hl, enteredAs_of_forall hkind]
      simp [quantitySum, Count.total, Entry.forfeit]
  rw [Change.entries, enteredAs_append, enteredAs_append, hdrawn, hreturned, hlost]
  cases kind <;> simp

theorem drained_change (c : Change) (round : Count) : drained (c.entries round) = c.lost.val := by
  simp [drained_eq, enteredAs_change]

theorem rained_change (c : Change) (round : Count) : rained (c.entries round) = 0 :=
  enteredAs_change .rainfall c round

theorem change_stamped {c : Change} {round : Count} {e : Entry} (he : e ∈ c.entries round) :
    e.round = round := by
  rcases List.mem_append.mp he with he | he
  · obtain ⟨x, _, rfl⟩ := List.mem_map.mp he
    rfl
  rcases List.mem_append.mp he with he | he
  · obtain ⟨x, _, rfl⟩ := List.mem_map.mp he
    rfl
  · split at he
    · cases he
    · rw [List.mem_singleton.mp he]
      rfl

theorem change_entered {g : Game} {asset : AssetId} {player : PlayerId} {n : Count}
    {m : Move Change} (h : g.changeAllocation asset player n = .ok m) :
    Entered g m.game (m.result.entries g.round) := by
  obtain ⟨p, a, hp, ha, _, _, _, _, hc⟩ := changeAllocation_eq_ok h
  have ha := Roll.mem_of_find? ha
  refine ⟨hc.ledger, hc.wellFormed, fun e he => change_stamped he, fun s hs => ?_⟩
  obtain ⟨water, hparcels, hwater⟩ := hc.parcels
  have hdrawn : (g.parcels.sum fun q => if .parcel q.id = s then amountAt m.result.drawn q.id else 0) =
      (m.result.drawn.map fun x => if .parcel x.1 = s then x.2.val else 0).sum :=
    Roll.sum_amountAt fun x hx => by
      obtain ⟨q, ho, hid, _⟩ := hc.sound.drawnOwn x hx
      exact ⟨q, ho.1, hid, by rw [hid]⟩
  have hreturned : (g.parcels.sum fun q =>
      if .parcel q.id = s then amountAt m.result.returned q.id else 0) =
      (m.result.returned.map fun x => if .parcel x.1 = s then x.2.val else 0).sum :=
    Roll.sum_amountAt fun x hx => by
      obtain ⟨q, ho, hid⟩ := hc.sound.returnedOwn x hx
      exact ⟨q, ho.1, hid, by rw [hid]⟩
  have hsplit : ∀ q ∈ g.parcels.toList,
      (if Side.parcel q.id = s then (water q.id).val else 0) +
          (if Side.parcel q.id = s then amountAt m.result.drawn q.id else 0) =
        (if Side.parcel q.id = s then q.water.val else 0) +
          if Side.parcel q.id = s then amountAt m.result.returned q.id else 0 := by
    intro q hq
    split
    · exact hwater q hq
    · rfl
  have hsum := Roll.sum_congr hsplit
  rw [Roll.sum_add, Roll.sum_add, hdrawn, hreturned] at hsum
  have hasset := Roll.sum_put_of_mem ha (show key a = key { a with allocated := m.result.current } from rfl)
    (f := fun a => if Side.asset a.id = s then a.allocated.val else 0)
  have hmoved := hc.sound.moved
  rw [given_change, received_change hs, holding, holding, hparcels, sum_rewater, hc.assets,
    hc.sound.asset]
  dsimp only at hasset ⊢
  by_cases hs : Side.asset a.id = s
  · simp only [if_pos hs] at hasset ⊢
    omega
  · simp only [if_neg hs] at hasset ⊢
    omega

end Game

def Dealing.Orderly (g : Game) : Dealing → Prop
  | .addParcel q => q.water = 0
  | .build id _ _ _ => g.assets.find? id = none
  | _ => True

def Act.Orderly (g : Game) : Act → Prop
  | .deal d => d.Orderly g
  | _ => True

instance (g : Game) : (d : Dealing) → Decidable (d.Orderly g)
  | .addParcel q => inferInstanceAs (Decidable (q.water = 0))
  | .build id _ _ _ => inferInstanceAs (Decidable (g.assets.find? id = none))
  | .addPlayer _ => .isTrue trivial
  | .transferWater _ _ => .isTrue trivial
  | .transferDevelopment _ _ => .isTrue trivial

instance (g : Game) : (a : Act) → Decidable (a.Orderly g)
  | .deal d => inferInstanceAs (Decidable (d.Orderly g))
  | .setRound _ => .isTrue trivial
  | .credit _ _ => .isTrue trivial
  | .reset => .isTrue trivial
  | .distribute _ _ => .isTrue trivial
  | .change _ _ _ => .isTrue trivial

namespace Game

theorem deal_frame {g g' : Game} {d : Dealing} (h : g.deal? d = some g') :
    g'.round = g.round ∧ g'.ledger = g.ledger ∧
      (d.Orderly g → ∀ s, g'.holding s = g.holding s) := by
  cases d with
  | addPlayer p =>
    obtain ⟨_, rfl⟩ := addPlayer_eq_ok.mp (toOption_eq_some.mp h)
    exact ⟨rfl, rfl, fun _ _ => rfl⟩
  | addParcel q =>
    have hs := addParcel_eq_ok (toOption_eq_some.mp h)
    refine ⟨hs.round, hs.ledger, fun hd s => ?_⟩
    have hd : q.water = 0 := hd
    rw [holding, hs.parcels, hs.assets, Roll.sum_put_new hs.new, hd, Count.val_zero, ite_self,
      Nat.add_zero]
    rfl
  | build id player parcel b =>
    obtain ⟨_, rfl⟩ := build_eq_ok (toOption_eq_some.mp h)
    refine ⟨rfl, rfl, fun hd s => ?_⟩
    have hd : g.assets.find? id = none := hd
    simp only [holding]
    rw [Roll.sum_put_new hd, Count.val_zero, ite_self, Nat.add_zero]
  | transferWater parcel taker =>
    obtain ⟨m, hm, rfl⟩ := toOption_map_eq_some.mp h
    obtain ⟨q, hq, _, ⟨_, rfl⟩ | ⟨_, ht⟩⟩ := transferWater_eq_ok hm
    · exact ⟨rfl, rfl, fun _ _ => rfl⟩
    · refine ⟨ht.round, ht.ledger, fun _ s => ?_⟩
      have hput := Roll.sum_put_same (a := { q with waterOwner := taker }) hq rfl
        (f := fun q => if .parcel q.id = s then q.water.val else 0) rfl
      rw [holding, ht.parcels, ht.assets, hput]
      rfl
  | transferDevelopment parcel taker =>
    obtain ⟨m, hm, rfl⟩ := toOption_map_eq_some.mp h
    obtain ⟨_, q, hq, hm⟩ := transferDevelopment_eq_ok hm
    rw [← hm]
    exact ⟨rfl, rfl, fun _ s => congrArg (· + _) (Roll.sum_put_same hq rfl rfl)⟩

theorem after_entered {g : Game} {a : Act} (ha : a.Orderly g) :
    ∃ es, Entered g (g.after a) es := by
  refine after_of (P := fun g' => ∃ es, Entered g g' es) ⟨[], .of_holding rfl fun _ => rfl⟩
    fun g' h => ?_
  cases a with
  | deal d =>
    obtain ⟨_, hl, hs⟩ := deal_frame h
    exact ⟨[], .of_holding hl (hs ha)⟩
  | setRound round =>
    obtain rfl := Option.some.inj h
    exact ⟨[], .of_holding rfl fun _ => rfl⟩
  | credit player amount =>
    obtain ⟨p, _, money, rfl⟩ := credit_eq_ok (toOption_eq_some.mp h)
    exact ⟨[], .of_holding rfl fun _ => rfl⟩
  | reset =>
    obtain ⟨m, hm, rfl⟩ := toOption_map_eq_some.mp h
    exact ⟨_, reset_entered hm⟩
  | distribute d water =>
    obtain ⟨m, hm, rfl⟩ := toOption_map_eq_some.mp h
    obtain ⟨r, hentered⟩ := distribute_entered hm
    exact ⟨_, hentered⟩
  | change asset player n =>
    obtain ⟨m, hm, rfl⟩ := toOption_map_eq_some.mp h
    exact ⟨_, change_entered hm⟩

end Game
end Watershed
