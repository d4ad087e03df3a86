import Watershed.Proofs.Game.Volume
import Watershed.Proofs.Season.Spending
import Watershed.Proofs.Season.Transitions

namespace Watershed

namespace Game

open Ledger

def Accounted (g : Game) (round : Count) (opening : Nat) : Prop :=
  ∃ v, opening = min v Count.wideTop ∧
    v + rained (g.ledger.ofRound round) = g.volume + drained (g.ledger.ofRound round)

theorem Accounted.entered {g g' : Game} {es : List Entry} {opening : Nat}
    (h : g.Accounted g.round opening) (he : Entered g g' es) : g'.Accounted g.round opening := by
  obtain ⟨v, ho, hv⟩ := h
  have hvolume := he.volume
  refine ⟨v, ho, ?_⟩
  rw [he.ledger, ofRound_appendAll he.stamped, rained_append, drained_append]
  omega

theorem Entered.accounted {g g' : Game} {es : List Entry} (he : Entered g g' es)
    (hnew : ∀ e ∈ g.ledger.entries, e.round ≠ g.round) : g'.Accounted g.round g.held := by
  have hvolume := he.volume
  refine ⟨g.volume, held_eq g, ?_⟩
  rw [he.ledger, ofRound_appendAll he.stamped, ofRound_eq_nil hnew, List.nil_append]
  omega

theorem Accounted.audit {g : Game} {round : Count} {opening : Nat} (h : g.Accounted round opening)
    (hp : g.parcels.size < 2 ^ 60) (ha : g.assets.size < 2 ^ 60)
    (hl : g.ledger.entries.length < 2 ^ 60) :
    g.ledger.auditHoldings round opening g.held = .balanced := by
  obtain ⟨v, ho, hv⟩ := h
  have hvolume := volume_le g
  have hinflow := inflow_lt hl round
  have houtflow := outflow_lt hl round
  rw [← inflow_eq, ← outflow_eq] at hv
  have hexact : opening = v := ho.trans (Nat.min_eq_left (by simp only [Count.wideTop]; omega))
  have hheld : g.held = g.volume := held_eq_volume (by omega)
  refine auditHoldings_of_eq ?_ ?_
  · simp only [sumBound]
    omega
  · omega

end Game

namespace Season

def Call.Orderly (s : Season) : Call → Prop
  | .deal d => d.Orderly s.game
  | _ => True

structure Conserved (s : Season) : Prop where
  wellFormed : ∀ e ∈ s.game.ledger.entries, e.WellFormed
  past : ∀ e ∈ s.game.ledger.entries, e.round.val ≤ s.clock.round.val
  accepting : s.accepting = true → s.clock.phase = .allocation
  round : s.clock.phase ≠ .revenue → s.game.round = s.clock.round
  accounted : s.clock.phase ≠ .revenue → s.game.Accounted s.clock.round s.opening

theorem Conserved.entered {s : Season} {g : Game} {es : List Entry} (hs : Conserved s)
    (hr : s.clock.phase ≠ .revenue) (he : Game.Entered s.game g es) (hround : g.round = s.game.round) :
    (∀ e ∈ g.ledger.entries, e.WellFormed) ∧
      (∀ e ∈ g.ledger.entries, e.round.val ≤ s.clock.round.val) ∧
      g.round = s.clock.round ∧ g.Accounted s.clock.round s.opening := by
  have hclock := hs.round hr
  have haccounted := hs.accounted hr
  rw [← hclock] at haccounted
  refine ⟨he.forall_entries hs.wellFormed he.wellFormed, he.forall_entries hs.past fun e hm => ?_,
    hround.trans hclock, hclock ▸ haccounted.entered he⟩
  rw [he.stamped e hm, hclock]

theorem build_conserved {s : Season} {clock : Clock} {m : Move Reset} (hs : Conserved s)
    (he : s.enter .build = .ok clock) (hm : (s.game.setRound clock.round).reset = .ok m) :
    Conserved { s with
      clock := clock, game := m.game, opening := s.game.held, downpour := ⟨0, 0, 0⟩ } := by
  obtain ⟨hphase, _, hround⟩ := enter_build he
  have hentered := Game.reset_entered hm
  -- nothing is entered yet under the new round
  have hpast : ∀ e ∈ s.game.ledger.entries, e.round.val < clock.round.val := fun e hm => by
    have hle := hs.past e hm
    omega
  refine ⟨hentered.forall_entries hs.wellFormed hentered.wellFormed,
    hentered.forall_entries (fun e hm => Nat.le_of_lt (hpast e hm)) fun e hm => ?_, fun ha => ?_,
    fun _ => ?_, fun _ => ?_⟩
  · rw [hentered.stamped e hm]
    exact Nat.le_refl _
  · have hallocation := hs.accepting ha
    rw [hphase] at hallocation
    cases hallocation
  · obtain ⟨_, hg⟩ := Game.reset_eq_ok hm
    show m.game.round = clock.round
    rw [← hg]
    rfl
  · exact hentered.accounted fun e hm he => Nat.ne_of_lt (hpast e hm) (congrArg Count.val he)

theorem Moved.conserved {s s' : Season} {c : Call} (hc : c.Orderly s) (hs : Conserved s)
    (h : Moved s c s') : Conserved s' := by
  cases h with
  | refused => exact hs
  | rained rainfall => exact ⟨hs.wellFormed, hs.past, hs.accepting, hs.round, hs.accounted⟩
  | build clock m he hm => exact build_conserved hs he hm
  | allocation rainfall water clock m he hm =>
    obtain ⟨hphase, hphase', hround⟩ := enter_allocation he
    obtain ⟨es, hentered⟩ := Game.distribute_entered hm
    obtain ⟨r, _, _, hg⟩ := Game.distribute_eq_ok hm
    have hr : s.clock.phase ≠ .revenue := by
      rw [hphase]
      simp
    obtain ⟨hw, hpast, hgame, haccounted⟩ := hs.entered hr hentered (by rw [← hg])
    rw [← hround] at hpast hgame haccounted
    exact ⟨hw, hpast, fun _ => hphase', fun _ => hgame, fun _ => haccounted⟩
  | revenue clock r g he ha hg =>
    obtain ⟨_, hphase, hround⟩ := enter_revenue he
    obtain ⟨players, rfl⟩ := Game.credits_eq_ok hg
    refine ⟨hs.wellFormed, ?_, fun ha => (by cases ha), fun hr => absurd hphase hr,
      fun hr => absurd hphase hr⟩
    show ∀ e ∈ s.game.ledger.entries, e.round.val ≤ clock.round.val
    rw [hround]
    exact hs.past
  | change c asset player n m ho hm =>
    have hphase := hs.accepting ho
    have hr : s.clock.phase ≠ .revenue := by
      rw [hphase]
      simp
    obtain ⟨_, _, _, _, _, _, _, _, hcarried⟩ := Game.changeAllocation_eq_ok hm
    obtain ⟨hw, hpast, hgame, haccounted⟩ := hs.entered hr (Game.change_entered hm) hcarried.round
    exact ⟨hw, hpast, hs.accepting, fun _ => hgame, fun _ => haccounted⟩
  | deal d g hg =>
    obtain ⟨hround, hl, hholding⟩ := Game.deal_frame hg
    have hentered := Game.Entered.of_holding hl (hholding hc)
    refine ⟨hentered.forall_entries hs.wellFormed hentered.wellFormed,
      hentered.forall_entries hs.past (by simp), hs.accepting, fun hr => ?_, fun hr => ?_⟩
    · exact hround.trans (hs.round hr)
    · exact (hs.entered hr hentered hround).2.2.2

inductive Initial (s : Season) : Prop
  | given (strategies : Strategies) (g : Game) (n : Count) (hl : g.ledger = .empty)
    (h : start strategies g n = .ok s)
  | configured (fresh : Nat → Uuid) (config : Config) (f : Founding)
    (h : ofConfig fresh config = .ok (s, f))

theorem start_conserved {strategies : Strategies} {g : Game} {n : Count} {s : Season}
    (hl : g.ledger = .empty) (h : start strategies g n = .ok s) : Conserved s := by
  obtain rfl := start_eq_ok h
  have hnone : ∀ e, e ∉ g.ledger.entries := by
    intro e he
    rw [hl] at he
    cases he
  exact ⟨fun e he => absurd he (hnone e), fun e he => absurd he (hnone e), fun ha => (by cases ha),
    fun hr => absurd rfl hr, fun hr => absurd rfl hr⟩

theorem Initial.conserved {s : Season} (h : Initial s) : Conserved s := by
  cases h with
  | given strategies g n hl h => exact start_conserved hl h
  | configured fresh config f h =>
    obtain ⟨_, hg, hs⟩ := ofConfig_eq_ok h
    exact start_conserved (founded_frame hg).2 hs

theorem startRevenue_eq_anomaly {s : Season} {a : Anomaly}
    (h : s.startRevenue.answer = .error (.anomaly a)) :
    ∃ clock, s.enter .revenue = .ok clock ∧ s.audit clock.round = .error (.anomaly a) := by
  rcases startRevenue_eq_error h with h | ⟨clock, he, h | ⟨_, _, h⟩ | ⟨_, _, _, _, h⟩⟩
  · unfold enter at h
    split at h
    · cases h
    · obtain ⟨_, _, h⟩ := mapError_eq_error.mp h
      cases h
  · exact ⟨clock, he, h⟩
  · cases h
  · cases h

theorem Conserved.balanced {s : Season} (hs : Conserved s)
    (hparcels : s.game.parcels.size < 2 ^ 60) (hassets : s.game.assets.size < 2 ^ 60)
    (hentries : s.game.ledger.entries.length < 2 ^ 60) {clock : Clock}
    (he : s.enter .revenue = .ok clock) :
    s.game.ledger.auditConservation clock.round = .balanced ∧
      s.game.ledger.auditHoldings clock.round s.opening s.game.held = .balanced := by
  obtain ⟨hphase, _, hround⟩ := enter_revenue he
  have haccounted := hs.accounted (by rw [hphase]; simp)
  rw [← hround] at haccounted
  exact ⟨Ledger.auditConservation_of_wellFormed hs.wellFormed (by omega) clock.round,
    haccounted.audit hparcels hassets hentries⟩

theorem no_anomaly {s₀ s : Season} (h₀ : Initial s₀) (h : Run (fun s c => c.Orderly s) s₀ s)
    (hparcels : s.game.parcels.size < 2 ^ 60) (hassets : s.game.assets.size < 2 ^ 60)
    (hentries : s.game.ledger.entries.length < 2 ^ 60) :
    (∀ clock, s.enter .revenue = .ok clock →
      s.game.ledger.auditConservation clock.round = .balanced ∧
      s.game.ledger.auditHoldings clock.round s.opening s.game.held = .balanced) ∧
    ∀ a, s.startRevenue.answer ≠ .error (.anomaly a) := by
  have hs : Conserved s := h.invariant (fun s c hc hs => (after_moved s c).conserved hc hs) h₀.conserved
  have hbalanced := fun clock (he : s.enter .revenue = .ok clock) =>
    hs.balanced hparcels hassets hentries he
  refine ⟨hbalanced, fun a ha => ?_⟩
  obtain ⟨clock, he, ha⟩ := startRevenue_eq_anomaly ha
  obtain ⟨hconservation, hholdings⟩ := hbalanced clock he
  rw [audit, hconservation, hholdings] at ha
  cases ha

def wetGame : Game :=
  let g := Game.afterAll .empty Sample.settling
  { g with parcels := g.parcels.put { Sample.marsh with water := .clamp 4 } }

def wetSeason : Season :=
  ⟨⟨0, .revenue, .clamp 3⟩, wetGame,
    ⟨.utopian (some (.clamp 8)), .perParcel, .parcelOriented, .unconfigured⟩, false, .neutral, 0,
    ⟨0, 0, 0⟩⟩

def wetCalls : List Call :=
  [.startBuild, .startAllocation, .changeAtDesk Sample.mill Sample.miller.id (.clamp 3),
    .deal (.transferWater Sample.meadow.id none)]

theorem wet_audited :
    (wetSeason.afterAll wetCalls).game.ledger.entries.length = 4 ∧
      (wetSeason.afterAll wetCalls).enter .revenue = .ok ⟨1, .revenue, .clamp 3⟩ ∧
      (wetSeason.afterAll wetCalls).game.ledger.auditHoldings 1 (wetSeason.afterAll wetCalls).opening
        (wetSeason.afterAll wetCalls).game.held = .balanced := by
  have h₀ : Initial wetSeason :=
    .given wetSeason.strategies wetGame (.clamp 3) (by decide +kernel) rfl
  have hr : Run (fun s c => c.Orderly s) wetSeason (wetSeason.afterAll wetCalls) :=
    .afterAll ⟨trivial, trivial, trivial, trivial, trivial⟩
  have he : (wetSeason.afterAll wetCalls).enter .revenue = .ok ⟨1, .revenue, .clamp 3⟩ := by
    decide +kernel
  have hb := (no_anomaly h₀ hr (by decide +kernel) (by decide +kernel) (by decide +kernel)).1 _ he
  exact ⟨by decide +kernel, he, hb.2⟩

end Season
end Watershed
