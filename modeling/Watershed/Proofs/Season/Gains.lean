import Watershed.Proofs.Economy.Multipliers
import Watershed.Proofs.Economy.Revenue
import Watershed.Proofs.Game.Spendable
import Watershed.Proofs.Rainfall.Series
import Watershed.Proofs.Season.Payment
import Watershed.Proofs.Season.Spending

namespace Watershed

namespace Economy

def Fair (e : Economy) : Prop := ∀ x ∈ e.series, ∀ r ∈ x.2.ratios, 0 ≤ r.value

theorem IsOf.fair {e : Economy} {last : Option EconomySettings} (h : e.IsOf last) : e.Fair := by
  intro x hx r hr
  cases last with
  | none =>
    cases h
    cases hx
  | some s =>
    obtain ⟨text, _, hread⟩ := (mem_series h).mp hx
    obtain ⟨_, series, hseries, hx⟩ := readSeries_eq_ok.mp hread
    rw [← hx] at hr
    rcases RatioSeries.readFor_eq_ok.mp hseries with ⟨_, rfl⟩ | ⟨_, hpieces⟩
    · cases hr
    · obtain ⟨i, hi, rfl⟩ := List.getElem_of_mem hr
      exact Decimal.value_nonneg_iff.mpr (Or.inl (hpieces.get (hpieces.length_eq ▸ hi) hi).2)

theorem Fair.multipliers {e : Economy} (h : e.Fair) (round : Count) (kind : AssetKind)
    (level : Count) : 0 ≤ ((e.multipliers round).get kind level).value := by
  have hone : 0 ≤ Decimal.value 1 := Decimal.value_one ▸ zero_le_one
  have hratio (i : Nat) : 0 ≤ (e.ratioFor round kind i).value := by
    unfold ratioFor
    split
    · rename_i series hseries
      obtain ⟨x, hx, rfl⟩ := Option.map_eq_some_iff.mp hseries
      exact RatioSeries.ratioFor_nonneg (h x (List.mem_of_find?_eq_some hx)) round
    · exact hone
  rw [Multipliers.get, Economy.multipliers, List.getElem?_map]
  cases (List.range (kind.maxLevel + 1))[level.val]? with
  | none => exact hone
  | some i => exact hratio i

end Economy

def Dealing.Profitable : Dealing → Prop
  | .build _ _ _ b => 0 ≤ b.nominal.value
  | _ => True

namespace Game

def Profitable (g : Game) : Prop := ∀ a ∈ g.assets.toList, 0 ≤ a.nominal.value

theorem Profitable.deal {g g' : Game} {d : Dealing} (hg : g.Profitable) (hd : d.Profitable)
    (h : g.deal? d = some g') : g'.Profitable := by
  intro a ha
  rcases deal_assets h a ha with ha | ⟨_, _, _, _, _, _, rfl, hb⟩
  · exact hg a ha
  · exact hb ▸ hd

theorem Profitable.reset {g : Game} {m : Move Reset} (hg : g.Profitable) (h : g.reset = .ok m) :
    m.game.Profitable := by
  obtain ⟨_, hm⟩ := reset_eq_ok h
  rw [← hm]
  intro a ha
  obtain ⟨a', ha', rfl⟩ := List.mem_map.mp ha
  exact hg a' ha'

theorem Profitable.distribute {g : Game} {d : Distributor} {water : Count} {m : Move Downpour}
    (hg : g.Profitable) (h : g.distribute d water = .ok m) : m.game.Profitable := by
  obtain ⟨_, _, _, hm⟩ := distribute_eq_ok h
  rw [← hm]
  exact hg

theorem Profitable.change {g : Game} {asset : AssetId} {player : PlayerId} {n : Count}
    {m : Move Change} (hg : g.Profitable) (h : g.changeAllocation asset player n = .ok m) :
    m.game.Profitable := by
  obtain ⟨p, x, _, hx, _, _, _, _, hc⟩ := changeAllocation_eq_ok h
  intro a ha
  rw [hc.assets] at ha
  rcases Roll.mem_put.mp ha with rfl | ⟨ha, _⟩
  · exact hg x (Roll.mem_of_find? hx)
  · exact hg a ha

theorem Profitable.payAll {g g' : Game} {r : Revenue} (hg : g.Profitable)
    (h : Season.payAll g r = .ok g') : g'.Profitable := by
  refine (Season.payAll_run h).invariant (fun g a ha hg => ?_) hg
  obtain ⟨p, n, rfl⟩ := ha
  refine after_of hg fun g' h => ?_
  obtain ⟨_, _, _, rfl⟩ := credit_eq_ok (toOption_eq_some.mp h)
  exact hg

end Game

namespace Revenue

section

variable {m : Multipliers} {assets : List Asset} {r r' : Revenue}

theorem foldlM_some
    (h : assets.foldlM (fun (r : Revenue) a => do r.add? a.owner (← a.revenue? m)) r = some r') :
    ∀ a ∈ assets, ∃ n, a.revenue? m = some n := by
  induction assets generalizing r with
  | nil =>
    intro a ha
    cases ha
  | cons a assets ih =>
    obtain ⟨r₁, hr, h⟩ := Option.bind_eq_some_iff.mp (List.foldlM_cons.symm.trans h)
    obtain ⟨n, hn, _⟩ := Option.bind_eq_some_iff.mp hr
    exact List.forall_mem_cons.mpr ⟨⟨n, hn⟩, ih h⟩

def Nonneg (r : Revenue) : Prop := ∀ x ∈ r.toList, 0 ≤ x.2.value

theorem Nonneg.of (hr : r.Nonneg) (p : PlayerId) : 0 ≤ (r.of p).value := by
  unfold Revenue.of
  split
  · rename_i id n hf
    exact hr (id, n) (Roll.mem_of_find? hf)
  · exact Decimal.value_zero.ge

theorem Nonneg.add? (hr : r.Nonneg) {p : PlayerId} {n : Decimal} (hn : 0 ≤ n.value)
    (h : r.add? p n = some r') : r'.Nonneg := by
  obtain ⟨total, ht, rfl⟩ := Option.map_eq_some_iff.mp h
  intro x hx
  rcases Roll.mem_put.mp hx with rfl | ⟨hx, _⟩
  · exact (hr.of p).trans (Decimal.le_add? ht hn)
  · exact hr x hx

theorem Nonneg.foldlM (hr : r.Nonneg)
    (ha : ∀ a ∈ assets, ∀ n, a.revenue? m = some n → 0 ≤ n.value)
    (h : assets.foldlM (fun (r : Revenue) a => do r.add? a.owner (← a.revenue? m)) r = some r') :
    r'.Nonneg := by
  induction assets generalizing r with
  | nil => exact Option.some.inj h ▸ hr
  | cons a assets ih =>
    obtain ⟨ha, hassets⟩ := List.forall_mem_cons.mp ha
    obtain ⟨r₁, hr₁, h⟩ := Option.bind_eq_some_iff.mp (List.foldlM_cons.symm.trans h)
    obtain ⟨n, hn, hadd⟩ := Option.bind_eq_some_iff.mp hr₁
    exact ih (hr.add? (ha n hn) hadd) hassets h

end

end Revenue

namespace Game

def Enriched (g g' : Game) : Prop :=
  ∀ p ∈ g.players.toList, ∃ p' ∈ g'.players.toList, p'.id = p.id ∧ p.money.value ≤ p'.money.value

theorem Enriched.refl (g : Game) : Enriched g g := fun p hp => ⟨p, hp, rfl, le_rfl⟩

theorem Enriched.trans {g g' g'' : Game} (h : Enriched g g') (h' : Enriched g' g'') :
    Enriched g g'' := by
  intro p hp
  obtain ⟨p', hp', hid, hmoney⟩ := h p hp
  obtain ⟨p'', hp'', hid', hmoney'⟩ := h' p' hp'
  exact ⟨p'', hp'', hid'.trans hid, hmoney.trans hmoney'⟩

theorem SameMoney.enriched {g g' : Game} (h : SameMoney g g') : Enriched g g' := by
  intro p hp
  obtain ⟨p', hp', hid, hmoney⟩ := h p hp
  exact ⟨p', hp', hid, hmoney ▸ le_rfl⟩

end Game

namespace Season

def Call.Profitable : Call → Prop
  | .deal d => d.Profitable
  | _ => True

structure Gainful (s : Season) : Prop where
  profitable : s.game.Profitable
  fair : s.strategies.economy.Fair
  ratios : ∀ kind level, 0 ≤ (s.multipliers.get kind level).value

theorem start_gainful {strategies : Strategies} {g : Game} {n : Count} {s : Season}
    (he : strategies.economy.Fair) (hg : g.Profitable) (h : start strategies g n = .ok s) :
    Gainful s := by
  obtain rfl := start_eq_ok h
  refine ⟨hg, he, fun kind level => ?_⟩
  have hone : Multipliers.neutral.get kind level = 1 := by
    rw [Multipliers.get, Economy.getElem?_neutral]
    split <;> rfl
  rw [hone, Decimal.value_one]
  exact zero_le_one

theorem Moved.gainful {s s' : Season} {c : Call} (hc : c.Profitable) (hs : Gainful s)
    (h : Moved s c s') : Gainful s' := by
  cases h with
  | refused => exact hs
  | rained rainfall => exact ⟨hs.profitable, hs.fair, hs.ratios⟩
  | build clock m he hm =>
    have hround : (s.game.setRound clock.round).Profitable := hs.profitable
    exact ⟨hround.reset hm, hs.fair, hs.ratios⟩
  | allocation rainfall water clock m he hm =>
    exact ⟨hs.profitable.distribute hm, hs.fair, hs.fair.multipliers _⟩
  | revenue clock r g he ha hg => exact ⟨hs.profitable.payAll hg, hs.fair, hs.ratios⟩
  | change _ asset player n m ho hm => exact ⟨hs.profitable.change hm, hs.fair, hs.ratios⟩
  | deal d g hg => exact ⟨hs.profitable.deal hc hg, hs.fair, hs.ratios⟩

theorem Gainful.pay {s : Season} (hs : Gainful s) {x : Summary} (h : s.startRevenue.answer = .ok x) :
    s.game.Enriched s.startRevenue.season.game := by
  -- a payment is never negative, and rounding keeps it from taking anything away
  obtain ⟨clock, revenue, game, _, hrevenue, hg, hseason, _⟩ := startRevenue_eq_ok h
  have hnonneg : revenue.Nonneg := by
    refine Revenue.Nonneg.foldlM (r := .empty) (fun x hx => by cases hx) (fun a ha n => ?_)
      (Revenue.byPlayer_eq_ok.mp hrevenue)
    exact Asset.revenue?_nonneg (hs.profitable a ha) (hs.ratios a.kind a.level)
  rw [hseason]
  intro p hp
  obtain ⟨p', hp', hid, hpay⟩ := payAll_pay hg hp
  refine ⟨p', hp', hid, ?_⟩
  unfold Revenue.pay at hpay
  split at hpay
  · rename_i id n hf
    exact Decimal.le_add? hpay (hnonneg (id, n) (Roll.mem_of_find? hf))
  · exact Option.some.inj hpay ▸ le_rfl

theorem Gainful.after {s : Season} (hs : Gainful s) (c : Call) : s.game.Enriched (s.after c).game := by
  cases hc : s.closing? c with
  | none => exact (after_sameMoney hc).enriched
  | some x =>
    obtain ⟨rfl, hx⟩ := closing?_eq_some.mp hc
    exact hs.pay hx

theorem Gainful.run {s s' : Season} (hs : Gainful s) (h : Run (fun _ c => c.Profitable) s s') :
    Gainful s' ∧ s.game.Enriched s'.game := by
  refine h.invariant (P := fun t => Gainful t ∧ s.game.Enriched t.game) (fun t c hc ht => ?_)
    ⟨hs, .refl _⟩
  exact ⟨(after_moved t c).gainful hc ht.1, ht.2.trans (ht.1.after c)⟩

theorem money_grows :
    (∀ (m : Multipliers) (a : Asset), 0 < a.usage.val → 0 ≤ a.nominal.value →
      0 ≤ (m.get a.kind a.level).value → Asset.GrowsWithWater m a) ∧
    ∀ (settings : List EconomySettings) (strategies : Strategies) (g : Game) (n : Count) (s₀ : Season),
      strategies.economy = Economy.unconfigured.configuredAll settings → g.Profitable →
      start strategies g n = .ok s₀ → ∀ s s', Run (fun _ c => c.Profitable) s₀ s →
      Run (fun _ c => c.Profitable) s s' → s.game.Enriched s'.game := by
  refine ⟨fun m a => Asset.growsWithWater, ?_⟩
  intro settings strategies g n s₀ he hg h₀ s s' hs hs'
  have hfair : strategies.economy.Fair := he ▸ (Economy.configuredAll_isOf settings).fair
  exact (((start_gainful hfair hg h₀).run hs).1.run hs').2

open Sample in
def milled : Game :=
  Game.afterAll .empty
    [.deal (.addPlayer farmer), .deal (.addPlayer miller), .deal (.addParcel meadow),
      .deal (.addParcel marsh),
      .deal (.build mill miller.id meadow.id
        ⟨"mill", .factory, 1, .clamp 5, true, .ofCount (.clamp 10)⟩)]

def slack : EconomySettings := ⟨Roll.empty.put (.factory, Roll.empty.put (1, "0.5"))⟩

def slackly : Strategies :=
  ⟨.utopian (some (.clamp 8)), .perParcel, .parcelOriented,
    Economy.unconfigured.configuredAll [slack]⟩

open Sample in
def halfDay : List Call :=
  [.startBuild, .startAllocation, .change mill miller.id (.clamp 3), .startRevenue]

theorem mill_gains :
    (∃ a ∈ milled.assets.toList, 0 < a.usage.val ∧ 0 ≤ a.nominal.value ∧
      0 ≤ ((slackly.economy.multipliers 1).get a.kind a.level).value ∧
      Asset.GrowsWithWater (slackly.economy.multipliers 1) a) ∧
    ∃ s₀, slackly.economy = Economy.unconfigured.configuredAll [slack] ∧ milled.Profitable ∧
      start slackly milled (.clamp 3) = .ok s₀ ∧
      Run (fun _ c => c.Profitable) s₀ (s₀.afterAll halfDay) ∧
      s₀.game.Enriched (s₀.afterAll halfDay).game ∧
      (s₀.afterAll halfDay).game.players.toList.map (·.money.text) = ["0", "3.0"] := by
  have hmill : ∃ a ∈ milled.assets.toList, 0 < a.usage.val ∧ a.nominal.negative = false ∧
      ((slackly.economy.multipliers 1).get a.kind a.level).negative = false := by decide +kernel
  have hassets : ∀ a ∈ milled.assets.toList, a.nominal.negative = false := by decide +kernel
  have hmoney : (match start slackly milled (.clamp 3) with
    | .ok s₀ => (s₀.afterAll halfDay).game.players.toList.map (·.money.text)
    | .error _ => []) = ["0", "3.0"] := by decide +kernel
  obtain ⟨hgrows, hgains⟩ := money_grows
  constructor
  · obtain ⟨a, ha, husage, hnominal, hratio⟩ := hmill
    have hnominal := Decimal.value_nonneg_iff.mpr (Or.inl hnominal)
    have hratio := Decimal.value_nonneg_iff.mpr (Or.inl hratio)
    exact ⟨a, ha, husage, hnominal, hratio, hgrows _ a husage hnominal hratio⟩
  · have hprofitable : milled.Profitable := fun a ha =>
      Decimal.value_nonneg_iff.mpr (Or.inl (hassets a ha))
    cases h₀ : start slackly milled (.clamp 3) with
    | error e =>
      rw [h₀] at hmoney
      cases hmoney
    | ok s₀ =>
      rw [h₀] at hmoney
      have hrun : Run (fun _ c => c.Profitable) s₀ (s₀.afterAll halfDay) :=
        .afterAll ⟨trivial, trivial, trivial, trivial, trivial⟩
      exact ⟨s₀, rfl, hprofitable, rfl, hrun,
        hgains [slack] slackly milled (.clamp 3) s₀ rfl hprofitable h₀ s₀ _ .refl hrun, hmoney⟩

structure Unpaid (s : Season) : Prop where
  refused : ∃ e, s.startRevenue.answer = .error e
  cause : ∀ clock, s.enter .revenue = .ok clock → s.audit clock.round = .ok () →
    s.startRevenue.answer = .error (.economy .overflow)
  unchanged : s.startRevenue.season = s

theorem unpaid_of_overflow {s : Season} (h : Revenue.byPlayer s.multipliers s.game.assets.toList =
    .error .overflow) : Unpaid s := by
  cases ha : s.startRevenue.answer with
  | ok x =>
    obtain ⟨_, _, _, _, hrevenue, _⟩ := startRevenue_eq_ok ha
    cases h.symm.trans hrevenue
  | error e =>
    refine ⟨⟨e, ha⟩, fun clock he haudit => ?_, startRevenue_error ha⟩
    rcases startRevenue_eq_error ha with he' | ⟨_, he', ha' | ⟨f, hf, rfl⟩ | ⟨_, _, hr, _⟩⟩
    · cases he.symm.trans he'
    · obtain rfl := Except.ok.inj (he.symm.trans he')
      cases haudit.symm.trans ha'
    · cases h.symm.trans hf
      exact ha
    · cases h.symm.trans hr

theorem overflow_blocks (m : Multipliers) (a : Asset) : Asset.OverflowsEarly m a ∧
    ∀ s : Season, s.multipliers = m → a ∈ s.game.assets.toList → a.revenue m = .error .overflow →
      Unpaid s := by
  refine ⟨Asset.overflowsEarly m a, ?_⟩
  rintro s rfl ha ho
  apply unpaid_of_overflow
  cases h : Revenue.byPlayer s.multipliers s.game.assets.toList with
  | error e => cases e; rfl
  | ok revenue =>
    obtain ⟨n, hn⟩ := Revenue.foldlM_some (Revenue.byPlayer_eq_ok.mp h) a ha
    rw [Asset.revenue_eq_error, hn] at ho
    cases ho

open Sample in
def grown : Game :=
  Game.afterAll .empty
    [.deal (.addPlayer farmer), .deal (.addPlayer miller), .deal (.addParcel meadow),
      .deal (.build mill miller.id meadow.id ⟨"grove", .crops, 1, .clamp 4, true,
        (Decimal.mk? false 60000000000000000000000000000 0).getD 0⟩)]

def lavish : EconomySettings := ⟨Roll.empty.put (.crops, Roll.empty.put (1, "2"))⟩

def lavishly : Strategies :=
  ⟨.utopian (some (.clamp 8)), .perParcel, .parcelOriented,
    Economy.unconfigured.configuredAll [lavish]⟩

def dryGrove : Season :=
  afterAll ⟨⟨0, .revenue, .clamp 3⟩, grown, lavishly, false, .neutral, 0, ⟨0, 0, 0⟩⟩
    [.startBuild, .startAllocation]

theorem dryGrove_unpaid : (∃ a ∈ dryGrove.game.assets.toList, a.allocated = 0 ∧
      a.revenue dryGrove.multipliers = .error .overflow) ∧
    dryGrove.startRevenue.answer = .error (.economy .overflow) ∧ Unpaid dryGrove := by
  have hgrove : ∃ a ∈ dryGrove.game.assets.toList, a.allocated = 0 ∧
      a.revenue dryGrove.multipliers = .error .overflow := by decide +kernel
  have hanswer : dryGrove.startRevenue.answer = .error (.economy .overflow) := by decide +kernel
  refine ⟨hgrove, hanswer, ?_⟩
  obtain ⟨a, ha, _, ho⟩ := hgrove
  exact (overflow_blocks dryGrove.multipliers a).2 _ rfl ha ho

end Season
end Watershed
