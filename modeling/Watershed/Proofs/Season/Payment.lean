import Watershed.Proofs.Game.Money
import Watershed.Proofs.Season.Start
import Watershed.Proofs.Season.Transitions

namespace Watershed.Season

def closing? (s : Season) : Call → Option Summary
  | .startRevenue => s.startRevenue.answer.toOption
  | _ => none

def summaries (s : Season) : List Call → List Summary
  | [] => []
  | c :: calls => (s.closing? c).toList ++ (s.after c).summaries calls

def income (id : PlayerId) (money : Decimal) (l : List Summary) : Option Decimal :=
  l.foldlM (fun money x => x.revenue.pay id money) money

theorem Moved.sameMoney {s s' : Season} {c : Call} (hc : c ≠ .startRevenue) (h : Moved s c s') :
    Game.SameMoney s.game s'.game := by
  cases h with
  | refused => exact .refl _
  | rained rainfall => exact .refl _
  | build clock m he hm => exact fun p hp => Game.reset_sameMoney hm p hp
  | allocation rainfall water clock m he hm => exact Game.distribute_sameMoney hm
  | revenue clock r g he ha hg => exact absurd rfl hc
  | change _ asset player n m ho hm => exact Game.change_sameMoney hm
  | deal d g hg => exact Game.deal_sameMoney hg

theorem closing?_eq_some {s : Season} {c : Call} {x : Summary} :
    s.closing? c = some x ↔ c = .startRevenue ∧ s.startRevenue.answer = .ok x := by
  cases c <;> simp [closing?, toOption_eq_some]

theorem after_of_not_closing {s : Season} (h : s.closing? .startRevenue = none) :
    s.after .startRevenue = s := by
  cases hx : s.startRevenue.answer with
  | ok x =>
    rw [closing?_eq_some.mpr ⟨rfl, hx⟩] at h
    cases h
  | error e => exact startRevenue_error hx

theorem after_sameMoney {s : Season} {c : Call} (hc : s.closing? c = none) :
    Game.SameMoney s.game (s.after c).game := by
  by_cases h : c = .startRevenue
  · subst h
    rw [after_of_not_closing hc]
    exact .refl _
  · exact (after_moved s c).sameMoney h

theorem afterAll_income (s : Season) (calls : List Call) {p : Player}
    (hp : p ∈ s.game.players.toList) : ∃ p' ∈ (s.afterAll calls).game.players.toList,
      p'.id = p.id ∧ income p.id p.money (s.summaries calls) = some p'.money := by
  induction calls generalizing s p with
  | nil => exact ⟨p, hp, rfl, rfl⟩
  | cons c calls ih =>
    cases hc : s.closing? c with
    | none =>
      obtain ⟨p₁, hp₁, hid₁, hmoney₁⟩ := after_sameMoney hc p hp
      obtain ⟨p', hp', hid, hincome⟩ := ih (s.after c) hp₁
      refine ⟨p', hp', hid.trans hid₁, ?_⟩
      rw [summaries, hc, ← hid₁, ← hmoney₁]
      exact hincome
    | some x =>
      obtain ⟨rfl, hx⟩ := closing?_eq_some.mp hc
      obtain ⟨clock, revenue, game, _, _, hg, hs, rfl⟩ := startRevenue_eq_ok hx
      obtain ⟨p₁, hp₁, hid₁, hpay⟩ := payAll_pay hg hp
      have hp₁ : p₁ ∈ (s.after .startRevenue).game.players.toList := by
        rw [after, hs]
        exact hp₁
      obtain ⟨p', hp', hid, hincome⟩ := ih (s.after .startRevenue) hp₁
      refine ⟨p', hp', hid.trans hid₁, ?_⟩
      rw [summaries, hc, ← hincome, hid₁]
      simp only [income, Option.toList_some, List.singleton_append, List.foldlM_cons, summarize,
        hpay, Option.bind_eq_bind, Option.bind_some]

structure Priced (e : Economy) (s : Season) : Prop where
  economy : s.strategies.economy = e
  round : s.clock.phase ≠ .revenue → s.game.round = s.clock.round
  multipliers : s.clock.phase = .allocation → s.multipliers = e.multipliers s.clock.round

theorem start_priced {strategies : Strategies} {g : Game} {n : Count} {s : Season}
    (h : start strategies g n = .ok s) : Priced strategies.economy s := by
  obtain rfl := start_eq_ok h
  exact ⟨rfl, fun hr => absurd rfl hr, fun ha => by cases ha⟩

theorem Moved.priced {e : Economy} {s s' : Season} {c : Call} (hs : Priced e s)
    (h : Moved s c s') : Priced e s' := by
  cases h with
  | refused => exact hs
  | rained rainfall => exact ⟨hs.economy, hs.round, hs.multipliers⟩
  | build clock m he hm =>
    obtain ⟨_, hphase, _⟩ := enter_build he
    obtain ⟨_, hg⟩ := Game.reset_eq_ok hm
    refine ⟨hs.economy, fun _ => by rw [← hg]; rfl, fun ha => ?_⟩
    rw [hphase] at ha
    cases ha
  | allocation rainfall water clock m he hm =>
    obtain ⟨hbuild, _, hround⟩ := enter_allocation he
    obtain ⟨_, _, _, hg⟩ := Game.distribute_eq_ok hm
    have hgame : s.game.round = clock.round := by
      rw [hround]
      apply hs.round
      rw [hbuild]
      simp
    refine ⟨hs.economy, fun _ => by rw [← hg]; exact hgame, fun _ => ?_⟩
    show s.strategies.economy.multipliers s.game.round = e.multipliers clock.round
    rw [hs.economy, hgame]
  | revenue clock r g he ha hg =>
    obtain ⟨_, hphase, _⟩ := enter_revenue he
    refine ⟨hs.economy, fun hr => absurd hphase hr, fun ha => ?_⟩
    rw [hphase] at ha
    cases ha
  | change _ asset player n m ho hm =>
    obtain ⟨_, _, _, _, _, _, _, _, hcarried⟩ := Game.changeAllocation_eq_ok hm
    exact ⟨hs.economy, fun hr => hcarried.round.trans (hs.round hr), hs.multipliers⟩
  | deal d g hg =>
    exact ⟨hs.economy, fun hr => (Game.deal_frame hg).1.trans (hs.round hr), hs.multipliers⟩

def Past (s : Season) (round : Count) : Prop :=
  round.val < s.clock.round.val ∨ (round.val = s.clock.round.val ∧ s.clock.phase = .revenue)

theorem Moved.past {s s' : Season} {c : Call} {round : Count} (hs : Past s round)
    (h : Moved s c s') : Past s' round := by
  cases h with
  | build clock m he hm =>
    obtain ⟨_, _, hround⟩ := enter_build he
    refine Or.inl ?_
    rcases hs with hs | ⟨hs, _⟩ <;> show round.val < clock.round.val <;> omega
  | allocation rainfall water clock m he hm =>
    obtain ⟨hbuild, _, hround⟩ := enter_allocation he
    rcases hs with hs | ⟨_, hs⟩
    · exact Or.inl (hround ▸ hs)
    · rw [hbuild] at hs
      cases hs
  | revenue clock r g he ha hg =>
    obtain ⟨hallocation, _, hround⟩ := enter_revenue he
    rcases hs with hs | ⟨_, hs⟩
    · exact Or.inl (hround ▸ hs)
    · rw [hallocation] at hs
      cases hs
  | refused => exact hs
  | rained rainfall => exact hs
  | change _ asset player n m ho hm => exact hs
  | deal d g hg => exact hs

theorem Past.lt_closing {s : Season} {c : Call} {x : Summary} {round : Count} (hs : Past s round)
    (h : s.closing? c = some x) : round.val < x.round.val := by
  obtain ⟨_, hx⟩ := closing?_eq_some.mp h
  obtain ⟨clock, revenue, _, he, _, _, _, rfl⟩ := startRevenue_eq_ok hx
  obtain ⟨hallocation, _, hround⟩ := enter_revenue he
  show round.val < clock.round.val
  rw [hround]
  rcases hs with hs | ⟨_, hs⟩
  · exact hs
  · rw [hallocation] at hs
    cases hs

theorem Past.lt_summaries {s : Season} {calls : List Call} {round : Count} (hs : Past s round) :
    ∀ x ∈ s.summaries calls, round.val < x.round.val := by
  induction calls generalizing s with
  | nil =>
    intro x hx
    cases hx
  | cons c calls ih =>
    intro x hx
    rcases List.mem_append.mp hx with hx | hx
    · exact hs.lt_closing (Option.mem_toList.mp hx)
    · exact ih ((after_moved s c).past hs) x hx

theorem summaries_pairwise (s : Season) (calls : List Call) :
    (s.summaries calls).Pairwise fun x y => x.round.val < y.round.val := by
  induction calls generalizing s with
  | nil => exact List.Pairwise.nil
  | cons c calls ih =>
    rw [summaries]
    cases hc : s.closing? c with
    | none => exact ih (s.after c)
    | some x =>
      refine List.pairwise_cons.mpr ⟨Past.lt_summaries ?_, ih (s.after c)⟩
      obtain ⟨rfl, hx⟩ := closing?_eq_some.mp hc
      obtain ⟨clock, revenue, game, he, _, _, hs, rfl⟩ := startRevenue_eq_ok hx
      obtain ⟨_, hrevenue, _⟩ := enter_revenue he
      refine Or.inr ?_
      rw [after, hs]
      exact ⟨rfl, hrevenue⟩

theorem paid_once {strategies : Strategies} {g : Game} {n : Count} {s₀ s : Season}
    (h₀ : start strategies g n = .ok s₀) (h : Run (fun _ _ => True) s₀ s) :
    (∀ calls, ∀ p ∈ s.game.players.toList, ∃ p' ∈ (s.afterAll calls).game.players.toList,
      p'.id = p.id ∧ income p.id p.money (s.summaries calls) = some p'.money) ∧
    (∀ calls, (s.summaries calls).Pairwise fun x y => x.round.val < y.round.val) ∧
    (∀ x, s.startRevenue.answer = .ok x →
      x.round = s.clock.round ∧ s.clock.round = s.game.round ∧
      Revenue.byPlayer (strategies.economy.multipliers x.round) s.game.assets.toList = .ok x.revenue ∧
      ∀ id, x.revenue.contains id = true ↔ ∃ a ∈ s.game.assets.toList, a.owner = id) ∧
    ∀ e, s.startRevenue.answer = .error e → s.startRevenue.season = s := by
  refine ⟨fun calls p hp => afterAll_income s calls hp, summaries_pairwise s, fun x hx => ?_,
    fun e => startRevenue_error⟩
  have hs : Priced strategies.economy s :=
    h.invariant (fun s c _ hs => (after_moved s c).priced hs) (start_priced h₀)
  obtain ⟨clock, revenue, _, he, hrevenue, _, _, rfl⟩ := startRevenue_eq_ok hx
  obtain ⟨hallocation, _, hround⟩ := enter_revenue he
  rw [hs.multipliers hallocation] at hrevenue
  refine ⟨hround, (hs.round ?_).symm, ?_, Revenue.contains_byPlayer hrevenue⟩
  · rw [hallocation]
    simp
  · show Revenue.byPlayer (strategies.economy.multipliers clock.round) _ = _
    rw [hround]
    exact hrevenue

open Sample in
def waged : Game :=
  Game.afterAll .empty
    [.deal (.addPlayer farmer), .deal (.addPlayer miller), .deal (.addParcel meadow),
      .deal (.build mill miller.id meadow.id ⟨"mill", .factory, 1, 0, true, 1⟩)]

def wages : Strategies := ⟨.utopian (some (.clamp 8)), .perParcel, .parcelOriented, .unconfigured⟩

def twoRounds : List Call :=
  [.startBuild, .startRevenue, .startAllocation, .startRevenue, .startRevenue, .startBuild,
    .startAllocation, .startRevenue]

open Sample in
theorem miller_paid : ∃ s₀, start wages waged (.clamp 3) = .ok s₀ ∧
    (s₀.summaries twoRounds).map (·.round.val) = [1, 2] ∧
    ∃ p ∈ (s₀.afterAll twoRounds).game.players.toList, p.id = miller.id ∧
      p.money = .ofCount (.clamp 2) := by
  have hrun : (match start wages waged (.clamp 3) with
    | .ok s₀ => ((s₀.summaries twoRounds).map (·.round.val),
        income miller.id 0 (s₀.summaries twoRounds))
    | .error _ => ([], none)) = ([1, 2], some (.ofCount (.clamp 2))) := by decide +kernel
  cases h₀ : start wages waged (.clamp 3) with
  | error e =>
    rw [h₀] at hrun
    cases hrun
  | ok s₀ =>
    rw [h₀] at hrun
    obtain ⟨hrounds, hincome⟩ := Prod.mk.inj hrun
    have hgame : s₀.game = waged := by rw [start_eq_ok h₀]
    have hmiller : miller ∈ s₀.game.players.toList := by
      rw [hgame]
      decide +kernel
    obtain ⟨p, hp, hid, hmoney⟩ := (paid_once h₀ .refl).1 twoRounds miller hmiller
    refine ⟨s₀, rfl, hrounds, p, hp, hid, Option.some.inj (hmoney.symm.trans hincome)⟩

end Watershed.Season
