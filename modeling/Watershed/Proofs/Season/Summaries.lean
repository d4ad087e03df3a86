import Watershed.Proofs.Game.Reckoning
import Watershed.Proofs.Season.Audit
import Watershed.Proofs.Season.Criterion
import Watershed.Proofs.Season.Payment

namespace Watershed

open Ledger

structure Chapter where
  rained : Game
  closed : Game
  summary : Summary

namespace Chapter

def left (c : Chapter) : Nat :=
  Count.total (c.closed.parcels.toList.map (·.water)) + c.summary.allocated.val

structure Exact (c : Chapter) : Prop where
  rainfall : c.summary.rainfall.val = c.closed.ledger.sumOf c.summary.round .rainfall
  evaporated : c.summary.evaporated.val = c.closed.ledger.sumOf c.summary.round .evaporate
  consumed : c.summary.consumed.val = c.closed.ledger.sumOf c.summary.round .consume
  forfeited : c.summary.forfeited.val = c.closed.ledger.sumOf c.summary.round .forfeit
  allocated : c.summary.allocated.val = Count.total (c.closed.assets.toList.map (·.allocated))
  distributed : c.summary.distributed.val = Count.total (c.rained.players.toList.map (·.water))

structure AddsUp (c : Chapter) (before : Nat) : Prop where
  exact : c.Exact
  round : c.rained.round = c.summary.round
  rainfall : c.summary.rainfall.val = c.left + c.summary.forfeited.val
  cleared : c.summary.evaporated.val + c.summary.consumed.val = before
  distributed : c.summary.rainfall.val =
    c.summary.distributed.val + Count.total (c.rained.toBoard.unowned.map (·.water))

def Consecutive (round before : Nat) : List Chapter → Prop
  | [] => True
  | c :: cs => c.summary.round.val = round + 1 ∧ c.AddsUp before ∧ Consecutive (round + 1) c.left cs

end Chapter

namespace Season

def lastRain (s : Season) (rained : Game) : Call → Game
  | .startAllocation => if succeeded s.startAllocation then s.startAllocation.season.game else rained
  | _ => rained

def chapters (s : Season) (rained : Game) : List Call → List Chapter
  | [] => []
  | c :: calls =>
    ((s.closing? c).map fun x => ⟨rained, (s.after c).game, x⟩).toList ++
      (s.after c).chapters (s.lastRain rained c) calls

theorem summary_chapters (s : Season) (rained : Game) (calls : List Call) :
    (s.chapters rained calls).map (·.summary) = s.summaries calls := by
  induction calls generalizing s rained with
  | nil => rfl
  | cons c calls ih =>
    rw [chapters, summaries, List.map_append, ih]
    cases s.closing? c <;> rfl

def Call.Resident (s : Season) : Call → Prop
  | .deal (.addPlayer _) => False
  | .deal (.addParcel _) => False
  | .deal (.build id _ _ _) => s.game.assets.find? id = none
  | _ => True

theorem Call.Resident.dry {s : Season} {c : Call} (h : c.Resident s) : c.Dry s := by
  cases c with
  | deal d => cases d <;> first | exact trivial | cases h
  | _ => exact trivial

theorem Call.Resident.orderly {s : Season} {c : Call} (h : c.Resident s) : c.Orderly s := by
  cases c with
  | deal d =>
    cases d with
    | addParcel q => cases h
    | build id player parcel b => exact h
    | _ => exact trivial
  | _ => exact trivial

theorem Moved.allRights {s s' : Season} {c : Call} (hc : c.Resident s) (h : Moved s c s') :
    s'.game.allRights = s.game.allRights := by
  cases h with
  | refused => rfl
  | rained rainfall => rfl
  | build clock m he hm => exact (Game.reset_sameTitles hm).allRights
  | allocation rainfall water clock m he hm => exact (Game.distribute_sameTitles hm).allRights
  | revenue clock r g he ha hg =>
    obtain ⟨players, rfl⟩ := Game.credits_eq_ok hg
    rfl
  | change _ asset player n m ho hm => exact (Game.change_sameTitles hm).allRights
  | deal d g hg =>
    have hafter := Game.after_eq (a := .deal d) hg
    cases d with
    | addPlayer p => cases hc
    | addParcel q => cases hc
    | build id player parcel b =>
      obtain ⟨_, rfl⟩ := Game.build_eq_ok (toOption_eq_some.mp hg)
      rfl
    | transferWater parcel taker => exact hafter ▸ Game.trade_allRights trivial
    | transferDevelopment parcel taker => exact hafter ▸ Game.trade_allRights trivial

structure Proper (s : Season) : Prop where
  rationed : Rationed s
  conserved : Conserved s
  rights : s.game.allRights ≤ 18446744073709551615

theorem Moved.proper {s s' : Season} {c : Call} (hc : c.Resident s) (hs : Proper s)
    (h : Moved s c s') : Proper s' where
  rationed := h.rationed hc.dry hs.conserved.accepting hs.rationed
  conserved := h.conserved hc.orderly hs.conserved
  rights := (h.allRights hc).trans_le hs.rights

structure Shared (s : Season) (rained : Game) : Prop where
  round : rained.round = s.clock.round
  told : s.downpour.distributed.val = Count.total (rained.players.toList.map (·.water))
  rainfall : enteredAs .rainfall (s.game.ledger.ofRound s.clock.round) =
    s.downpour.distributed.val + Count.total (rained.toBoard.unowned.map (·.water))
  bounded : enteredAs .rainfall (s.game.ledger.ofRound s.clock.round) ≤ 18446744073709551615

structure Reckoned (rounds before : Nat) (rained : Game) (s : Season) : Prop where
  proper : Proper s
  bounded : before ≤ 18446744073709551615
  between : s.clock.phase = .revenue → s.clock.round.val = rounds ∧ s.game.volume = before
  within : s.clock.phase ≠ .revenue →
    s.clock.round.val = rounds + 1 ∧ s.game.Booked s.clock.round before
  dry : s.clock.phase = .build →
    s.game.volume = 0 ∧ enteredAs .rainfall (s.game.ledger.ofRound s.clock.round) = 0
  shared : s.clock.phase = .allocation → s.Shared rained

variable {rounds before : Nat} {rained : Game} {s s' : Season} {c : Call}

theorem Reckoned.of_same (hs : Reckoned rounds before rained s) {g : Game}
    (hproper : Proper { s with game := g }) (hl : g.ledger = s.game.ledger)
    (hv : g.volume = s.game.volume) : Reckoned rounds before rained { s with game := g } := by
  refine ⟨hproper, hs.bounded, fun hr => ?_, fun hr => ?_, fun hb => ?_, fun ha => ?_⟩
  · rw [hv]
    exact hs.between hr
  · obtain ⟨hrounds, hbooked⟩ := hs.within hr
    refine ⟨hrounds, ?_, ?_⟩
    · rw [hl]
      exact hbooked.cleared
    · rw [hl, hv]
      exact hbooked.brought
  · rw [hl, hv]
    exact hs.dry hb
  · obtain ⟨hround, htold, hrainfall, hbounded⟩ := hs.shared ha
    rw [← hl] at hrainfall hbounded
    exact ⟨hround, htold, hrainfall, hbounded⟩

theorem change_reckoned {asset : AssetId} {player : PlayerId} {n : Count} {m : Move Change}
    (hs : Reckoned rounds before rained s) (hproper : Proper { s with game := m.game })
    (ho : s.accepting = true) (hm : s.game.changeAllocation asset player n = .ok m) :
    Reckoned rounds before rained { s with game := m.game } := by
  have hphase := hs.proper.conserved.accepting ho
  have hr : s.clock.phase ≠ .revenue := by simp [hphase]
  obtain ⟨hrounds, hbooked⟩ := hs.within hr
  obtain ⟨hround, htold, hrainfall, hbounded⟩ := hs.shared hphase
  have hclock := hs.proper.conserved.round hr
  have hentered := Game.change_entered hm
  rw [← hclock] at hbooked
  have hbooked := hbooked.entered hentered (by simp [Game.enteredAs_change])
  have hrain : enteredAs .rainfall (m.game.ledger.ofRound s.clock.round) =
      enteredAs .rainfall (s.game.ledger.ofRound s.clock.round) := by
    rw [← hclock, hentered.ledger, ofRound_appendAll hentered.stamped, enteredAs_append,
      Game.enteredAs_change]
    rfl
  refine ⟨hproper, hs.bounded, fun h => absurd h hr, fun _ => ⟨hrounds, hclock ▸ hbooked⟩,
    fun hb => ?_, fun _ => ⟨hround, htold, hrain.trans hrainfall, hrain.trans_le hbounded⟩⟩
  cases hphase.symm.trans hb

theorem build_reckoned {clock : Clock} {m : Move Reset} (hs : Reckoned rounds before rained s)
    (hproper : Proper
      { s with clock := clock, game := m.game, opening := s.game.held, downpour := ⟨0, 0, 0⟩ })
    (he : s.enter .build = .ok clock) (hm : (s.game.setRound clock.round).reset = .ok m) :
    Reckoned rounds before rained
      { s with clock := clock, game := m.game, opening := s.game.held, downpour := ⟨0, 0, 0⟩ } := by
  obtain ⟨hphase, hphase', hround⟩ := enter_build he
  obtain ⟨hrounds, hvolume⟩ := hs.between hphase
  -- nothing is entered yet under the new round
  have hnew : ∀ e ∈ (s.game.setRound clock.round).ledger.entries, e.round ≠ clock.round := by
    intro e hm he
    have hle := hs.proper.conserved.past e hm
    rw [he] at hle
    omega
  obtain ⟨hbooked, hdry, hrain⟩ := Game.reset_booked hm hnew
  refine ⟨hproper, hs.bounded, fun hr => ?_, fun _ => ⟨?_, hvolume ▸ hbooked⟩,
    fun _ => ⟨hdry, hrain⟩, fun ha => ?_⟩
  · cases hphase'.symm.trans hr
  · exact hround.symm.trans (congrArg (· + 1) hrounds)
  · cases hphase'.symm.trans ha

theorem Moved.reckoned (hs : Reckoned rounds before rained s) (hc : c.Resident s)
    (hallocation : c ≠ .startAllocation) (hrevenue : c ≠ .startRevenue) (h : Moved s c s') :
    Reckoned rounds before rained s' := by
  have hproper := h.proper hc hs.proper
  cases h with
  | refused => exact hs
  | rained rainfall => exact absurd rfl hallocation
  | allocation rainfall water clock m he hm => exact absurd rfl hallocation
  | revenue clock r g he ha hg => exact absurd rfl hrevenue
  | build clock m he hm => exact build_reckoned hs hproper he hm
  | change c asset player n m ho hm => exact change_reckoned hs hproper ho hm
  | deal d g hg =>
    obtain ⟨_, hl, hholding⟩ := Game.deal_frame hg
    exact hs.of_same hproper hl (Game.Entered.of_holding hl (hholding hc.orderly)).volume

theorem allocation_reckoned {rainfall : Rainfall} {water : Count} {clock : Clock} {m : Move Downpour}
    (hs : Reckoned rounds before rained s)
    (hproper : Proper
      { s with
        clock := clock
        game := m.game
        strategies := { s.strategies with rainfall := rainfall }
        accepting := true
        multipliers := s.strategies.economy.multipliers s.game.round
        downpour := m.result })
    (he : s.enter .allocation = .ok clock)
    (hm : s.game.distribute s.strategies.distributor water = .ok m) :
    Reckoned rounds before m.game
      { s with
        clock := clock
        game := m.game
        strategies := { s.strategies with rainfall := rainfall }
        accepting := true
        multipliers := s.strategies.economy.multipliers s.game.round
        downpour := m.result } := by
  obtain ⟨hphase, hphase', hround⟩ := enter_allocation he
  have hr : s.clock.phase ≠ .revenue := by simp [hphase]
  obtain ⟨hrounds, hbooked⟩ := hs.within hr
  obtain ⟨hvolume, hrain⟩ := hs.dry hphase
  have hclock : s.game.round = clock.round := (hs.proper.conserved.round hr).trans hround.symm
  rw [← hround, ← hclock] at hbooked hrain
  obtain ⟨hbooked, hentered⟩ := Game.distribute_booked hbooked hvolume hrain hm
  obtain ⟨htold, hshared, hbounded⟩ := Game.distribute_shared hs.proper.rationed.spending.spendable
    hvolume hs.proper.rationed.spending.writes hs.proper.rights hm
  have hgame : m.game.round = s.game.round := by
    obtain ⟨_, _, _, hg⟩ := Game.distribute_eq_ok hm
    rw [← hg]
  rw [hclock] at hbooked hentered
  refine ⟨hproper, hs.bounded, fun hv => ?_, fun _ => ⟨?_, hbooked⟩, fun hb => ?_, fun _ =>
    ⟨hgame.trans hclock, htold, ?_, hentered.trans_le hbounded⟩⟩
  · cases hphase'.symm.trans hv
  · exact (congrArg Count.val hround).trans hrounds
  · cases hphase'.symm.trans hb
  · rw [hentered, hshared, htold]

theorem startAllocation_reckoned (hs : Reckoned rounds before rained s) :
    Reckoned rounds before (s.lastRain rained .startAllocation) (s.after .startAllocation) := by
  have hproper := (after_moved s .startAllocation).proper (by trivial) hs.proper
  cases h : s.startAllocation.answer with
  | error e =>
    obtain ⟨rainfall, hafter⟩ := startAllocation_error h
    have hlast : s.lastRain rained .startAllocation = rained := by
      simp [lastRain, succeeded, h]
    rw [Season.after, hafter] at hproper ⊢
    rw [hlast]
    refine ⟨hproper, hs.bounded, hs.between, hs.within, hs.dry, fun ha => ?_⟩
    obtain ⟨hround, htold, hrainfall, hbounded⟩ := hs.shared ha
    exact ⟨hround, htold, hrainfall, hbounded⟩
  | ok downpour =>
    obtain ⟨rainfall, water, clock, m, he, hm, hafter⟩ := startAllocation_eq_ok h
    have hlast : s.lastRain rained .startAllocation = m.game := by
      simp [lastRain, succeeded, h, hafter]
    rw [Season.after, hafter] at hproper ⊢
    rw [hlast]
    exact allocation_reckoned hs hproper he hm

theorem Reckoned.after (hs : Reckoned rounds before rained s) (hc : c.Resident s)
    (hopen : s.closing? c = none) : Reckoned rounds before (s.lastRain rained c) (s.after c) := by
  by_cases hallocation : c = .startAllocation
  · subst hallocation
    exact startAllocation_reckoned hs
  have hlast : s.lastRain rained c = rained := by
    cases c <;> first | rfl | exact absurd rfl hallocation
  rw [hlast]
  by_cases hrevenue : c = .startRevenue
  · subst hrevenue
    rwa [after_of_not_closing hopen]
  · exact (after_moved s c).reckoned hs hc hallocation hrevenue

theorem val_totalOf {g : Game} {round : Count} {kind : EntryKind}
    (h : enteredAs kind (g.ledger.ofRound round) ≤ 18446744073709551615) :
    (totalOf g round kind).val = g.ledger.sumOf round kind := by
  unfold totalOf total?
  split
  · rw [Option.getD_some, Count.val_clamp]
    exact Nat.min_eq_left h
  · rename_i hnone
    have hnone : (g.ledger.ofRound round).filter (·.kind = kind) = [] := by
      simpa [List.filter_eq_nil_iff] using hnone
    rw [sumOf, hnone]
    rfl

theorem Reckoned.close (hs : Reckoned rounds before rained s) {x : Summary}
    (hx : s.startRevenue.answer = .ok x) :
    x.round.val = rounds + 1 ∧
      Chapter.AddsUp ⟨rained, (s.after .startRevenue).game, x⟩ before ∧
      Reckoned (rounds + 1) (Chapter.left ⟨rained, (s.after .startRevenue).game, x⟩) rained
        (s.after .startRevenue) := by
  have hproper := (after_moved s .startRevenue).proper (by trivial) hs.proper
  obtain ⟨clock, revenue, game, he, _, hg, hafter, rfl⟩ := startRevenue_eq_ok hx
  obtain ⟨players, rfl⟩ := Game.credits_eq_ok hg
  obtain ⟨hphase, hphase', hround⟩ := enter_revenue he
  obtain ⟨hrounds, hbooked⟩ := hs.within (by simp [hphase])
  obtain ⟨hrained, htold, hrainfall, hbounded⟩ := hs.shared hphase
  rw [← hround] at hrounds hbooked hrained hrainfall hbounded
  rw [Season.after, hafter] at hproper ⊢
  have hbefore := hs.bounded
  have hcleared := hbooked.cleared
  have hbrought := hbooked.brought
  have hvolume : s.game.volume = Count.total (s.game.parcels.toList.map (·.water)) +
      Count.total (s.game.assets.toList.map (·.allocated)) := by
    rw [Roll.total_map, Roll.total_map]
    rfl
  have hallocated : (s.summarize clock.round revenue).allocated.val =
      Count.total (s.game.assets.toList.map (·.allocated)) := by
    refine (Count.val_clamp _).trans (Nat.min_eq_left ?_)
    omega
  have hexact : Chapter.Exact ⟨rained, { s.game with players := players },
      s.summarize clock.round revenue⟩ :=
    ⟨val_totalOf hbounded, val_totalOf (by omega), val_totalOf (by omega), val_totalOf (by omega),
      hallocated, htold⟩
  have hleft : Chapter.left ⟨rained, { s.game with players := players },
      s.summarize clock.round revenue⟩ = s.game.volume := by
    rw [hvolume, Chapter.left, hallocated]
  refine ⟨hrounds, ⟨hexact, hrained, ?_, ?_, ?_⟩, hproper, ?_,
    fun _ => ⟨hrounds, hleft.symm⟩, fun hr => absurd hphase' hr, fun hb => ?_, fun ha => ?_⟩
  · rw [hleft, hexact.rainfall, hexact.forfeited]
    exact hbrought
  · rw [hexact.evaporated, hexact.consumed]
    exact hcleared
  · rw [hexact.rainfall]
    exact hrainfall
  · rw [hleft]
    omega
  · cases hphase'.symm.trans hb
  · cases hphase'.symm.trans ha

theorem Reckoned.chapters (hs : Reckoned rounds before rained s) {calls : List Call}
    (hcalls : Admitted (fun s c => c.Resident s) s calls) :
    Chapter.Consecutive rounds before (s.chapters rained calls) := by
  induction calls generalizing s rounds before rained with
  | nil => trivial
  | cons c calls ih =>
    obtain ⟨hc, hcalls⟩ := hcalls
    rw [Season.chapters]
    cases hclosing : s.closing? c with
    | none => exact ih (hs.after hc hclosing) hcalls
    | some x =>
      obtain ⟨rfl, hx⟩ := closing?_eq_some.mp hclosing
      obtain ⟨hround, hadds, hs'⟩ := hs.close hx
      exact ⟨hround, hadds, ih hs' hcalls⟩

theorem founded_volume {g : Game} (h : Game.Run Act.Founds .empty g) : g.volume = 0 := by
  refine h.invariant (P := fun g => g.volume = 0) (fun g₁ a ha hv => ?_) rfl
  obtain ⟨d, rfl, hd⟩ := ha
  refine Game.after_of (P := fun g => g.volume = 0) hv fun g₂ hg => ?_
  exact Nat.le_zero.mp (hv ▸ Game.deal_volume hd hg)

theorem ofConfig_reckoned {fresh : Nat → Uuid} {config : Config} {f : Founding}
    (h : ofConfig fresh config = .ok (s, f))
    (hrights : Count.total (s.game.parcels.toList.map (·.rights)) ≤ 18446744073709551615) :
    Reckoned 0 0 s.game s := by
  have hproper : Proper s :=
    ⟨(ofConfig_rationed h .refl).2, Initial.conserved (.configured fresh config f h),
      Roll.total_map.symm.trans_le hrights⟩
  obtain ⟨_, hg, hstart⟩ := ofConfig_eq_ok h
  have hclock : s.clock.round = 0 ∧ s.clock.phase = .revenue := by
    rw [start_eq_ok hstart]
    exact ⟨rfl, rfl⟩
  obtain ⟨hround, hphase⟩ := hclock
  refine ⟨hproper, Nat.zero_le _, fun _ => ⟨congrArg Count.val hround, founded_volume hg⟩,
    fun hr => absurd hphase hr, fun hb => ?_, fun ha => ?_⟩
  · cases hphase.symm.trans hb
  · cases hphase.symm.trans ha

theorem summaries_add_up {fresh : Nat → Uuid} {config : Config} {f : Founding} {s₀ : Season}
    (h₀ : ofConfig fresh config = .ok (s₀, f))
    (hrights : Count.total (s₀.game.parcels.toList.map (·.rights)) ≤ 18446744073709551615)
    {calls : List Call} (hcalls : Admitted (fun s c => c.Resident s) s₀ calls) :
    (s₀.chapters s₀.game calls).map (·.summary) = s₀.summaries calls ∧
      Chapter.Consecutive 0 0 (s₀.chapters s₀.game calls) :=
  ⟨summary_chapters s₀ s₀.game calls, (ofConfig_reckoned h₀ hrights).chapters hcalls⟩

def tieredConfig : Config :=
  { millConfig with
    strategies := ⟨.utopian, .tiered, .parcelOriented, .series⟩
    water := { millConfig.water with parcelWaterEntitlement := some (.clamp 7) } }

def parting : List Call :=
  [.startBuild, .startAllocation, .change ⟨.serial 2⟩ ⟨.serial 0⟩ (.clamp 5), .startRevenue,
    .startBuild, .startAllocation, .change ⟨.serial 2⟩ ⟨.serial 0⟩ (.clamp 5),
    .deal (.transferWater ⟨.serial 1⟩ none), .change ⟨.serial 2⟩ ⟨.serial 0⟩ 0, .startRevenue,
    .startBuild, .startAllocation, .startRevenue]

def figures (s : Season) (calls : List Call) : List (List Nat) :=
  (s.summaries calls).map fun x =>
    [x.rainfall.val, x.distributed.val, x.evaporated.val, x.consumed.val, x.forfeited.val,
      x.allocated.val]

theorem parting_adds_up : ∃ s₀ f, ofConfig Uuid.serial tieredConfig = .ok (s₀, f) ∧
    s₀.figures parting = [[7, 7, 0, 0, 0, 5], [7, 7, 2, 5, 5, 0], [7, 0, 2, 0, 0, 0]] ∧
    Chapter.Consecutive 0 0 (s₀.chapters s₀.game parting) := by
  have hrun : (ofConfig Uuid.serial tieredConfig).toOption.map (fun x =>
      (x.1.figures parting, Count.total (x.1.game.parcels.toList.map (·.rights)))) =
      some ([[7, 7, 0, 0, 0, 5], [7, 7, 2, 5, 5, 0], [7, 0, 2, 0, 0, 0]], 10) := by decide +kernel
  obtain ⟨⟨s₀, f⟩, h₀, hrun⟩ := toOption_map_eq_some.mp hrun
  obtain ⟨hfigures, hrights⟩ := Prod.mk.inj hrun
  have hcalls : Admitted (fun s c => c.Resident s) s₀ parting := by
    simp [parting, Admitted, Call.Resident]
  exact ⟨s₀, f, h₀, hfigures, (summaries_add_up h₀ (hrights.trans_le (by decide)) hcalls).2⟩

end Season
end Watershed
