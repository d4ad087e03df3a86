import Watershed.Proofs.Distribution.Progress
import Watershed.Proofs.Game.Money
import Watershed.Proofs.Season.Audit
import Watershed.Proofs.Season.Criterion
import Watershed.Proofs.Season.Refused
import Watershed.Proofs.Season.Transitions

namespace Watershed

def Strategies.Configured (s : Strategies) : Prop := s.rainfall.Configured ∧ s.distributor.Configured

theorem Strategies.ofKinds_configured {kinds : StrategyKinds} {water : WaterSettings}
    {economy : EconomySettings} {seed : Count} {s : Strategies}
    (h : Strategies.ofKinds kinds water economy seed = .ok s) : s.Configured := by
  obtain ⟨_, hr, h⟩ := bind_eq_ok.mp h
  obtain ⟨_, hd, h⟩ := bind_eq_ok.mp h
  obtain ⟨_, _, h⟩ := bind_eq_ok.mp h
  obtain ⟨_, _, h⟩ := bind_eq_ok.mp h
  obtain rfl := Except.ok.inj h
  exact ⟨Rainfall.configure_eq_ok hr, Distributor.configure_eq_ok hd⟩

namespace Game

theorem credit_eq_error {g : Game} {player : PlayerId} {amount : Decimal} {e : GameFault}
    (hk : g.Known player) (h : g.credit player amount = .error e) :
    e = .overflow ∧ ∃ p ∈ g.players.toList, p.id = player ∧ p.money.add? amount = none := by
  obtain ⟨p, hp, rfl⟩ := hk
  rw [credit, findPlayer_eq_ok.mpr ⟨hp, rfl⟩] at h
  cases hmoney : p.money.add? amount with
  | none =>
    simp only [bind, Except.bind, hmoney] at h
    exact ⟨(Except.error.inj h).symm, p, hp, rfl, hmoney⟩
  | some money =>
    simp only [bind, Except.bind, hmoney] at h
    cases h

theorem credits_eq_error {l : List (PlayerId × Decimal)} (hn : (l.map key).Nodup) {g : Game}
    (hk : ∀ x ∈ l, g.Known x.1) {e : GameFault}
    (h : l.foldlM (fun (g : Game) x => g.credit x.1 x.2) g = .error e) :
    e = .overflow ∧ ∃ x ∈ l, ∃ p ∈ g.players.toList, p.id = x.1 ∧ p.money.add? x.2 = none := by
  induction l generalizing g with
  | nil => cases h
  | cons x l ih =>
    obtain ⟨hx, hl⟩ := List.nodup_cons.mp hn
    obtain ⟨hkx, hkl⟩ := List.forall_mem_cons.mp hk
    rcases bind_eq_error.mp (List.foldlM_cons.symm.trans h) with h | ⟨g₁, hg, h⟩
    · obtain ⟨he, p, hp, hid, hmoney⟩ := credit_eq_error hkx h
      exact ⟨he, x, List.mem_cons_self, p, hp, hid, hmoney⟩
    · obtain ⟨q, hq, hid, money, _, rfl⟩ := credit_eq_ok_iff.mp hg
      -- the others are still there, with the money they had
      have hkl' : ∀ y ∈ l, Known { g with players := g.players.put { q with money := money } } y.1 := by
        intro y hy
        obtain ⟨p, hp, hpid⟩ := hkl y hy
        refine ⟨p, Roll.mem_put.mpr (Or.inr ⟨hp, fun e => hx ?_⟩), hpid⟩
        have hyx : key y = key x := (hpid.symm.trans e).trans hid
        exact hyx ▸ List.mem_map_of_mem hy
      obtain ⟨he, y, hy, p, hp, hpid, hmoney⟩ := ih hl hkl' h
      refine ⟨he, y, List.mem_cons_of_mem x hy, p, ?_, hpid, hmoney⟩
      rcases Roll.mem_put.mp hp with rfl | ⟨hp, _⟩
      · have hyx : key y = key x := hpid.symm.trans hid
        exact absurd (hyx ▸ List.mem_map_of_mem hy) hx
      · exact hp

structure Small (g : Game) : Prop where
  parcels : g.parcels.size < 2 ^ 60
  assets : g.assets.size < 2 ^ 60
  entries : g.ledger.entries.length < 2 ^ 60

structure Grown (g g' : Game) : Prop where
  parcels : g.parcels.size ≤ g'.parcels.size
  assets : g.assets.size ≤ g'.assets.size
  entries : g.ledger.entries.length ≤ g'.ledger.entries.length

theorem Grown.refl (g : Game) : Grown g g := ⟨Nat.le_refl _, Nat.le_refl _, Nat.le_refl _⟩

theorem Grown.trans {g g' g'' : Game} (h : Grown g g') (h' : Grown g' g'') : Grown g g'' :=
  ⟨h.parcels.trans h'.parcels, h.assets.trans h'.assets, h.entries.trans h'.entries⟩

theorem Grown.small {g g' : Game} (h : Grown g g') (hs : Small g') : Small g :=
  ⟨h.parcels.trans_lt hs.parcels, h.assets.trans_lt hs.assets, h.entries.trans_lt hs.entries⟩

theorem Grown.of_entered {g g' : Game} {es : List Entry} (he : Entered g g' es)
    (hp : g'.parcels.size = g.parcels.size) (ha : g'.assets.size = g.assets.size) : Grown g g' := by
  refine ⟨hp.ge, ha.ge, ?_⟩
  rw [he.ledger, Ledger.entries_appendAll, List.length_append]
  exact Nat.le_add_right _ _

theorem reset_grown {g : Game} {m : Move Reset} (h : g.reset = .ok m) : Grown g m.game := by
  have he := reset_entered h
  obtain ⟨_, hg⟩ := reset_eq_ok h
  refine .of_entered he ?_ ?_ <;> rw [← hg] <;> exact List.length_map _

theorem distribute_grown {g : Game} {d : Distributor} {water : Count} {m : Move Downpour}
    (h : g.distribute d water = .ok m) : Grown g m.game := by
  obtain ⟨es, he⟩ := distribute_entered h
  obtain ⟨r, hr, _, hg⟩ := distribute_eq_ok h
  obtain ⟨f, hf⟩ := Distributor.parcels_of_distribute hr
  refine .of_entered he ?_ ?_ <;> rw [← hg]
  show r.parcels.size = g.parcels.size
  rw [hf]
  exact List.length_map _

theorem change_grown {g : Game} {asset : AssetId} {player : PlayerId} {n : Count}
    {m : Move Change} (h : g.changeAllocation asset player n = .ok m) : Grown g m.game := by
  have he := change_entered h
  obtain ⟨p, a, _, ha, _, _, _, _, hc⟩ := changeAllocation_eq_ok h
  refine .of_entered he ?_ ?_
  · obtain ⟨water, hw, _⟩ := hc.parcels
    rw [hw]
    exact List.length_map _
  · rw [hc.assets]
    exact Roll.size_put_of_mem (Roll.mem_of_find? ha) rfl

end Game

namespace Season

def Call.Played (_ : Season) : Call → Prop
  | .deal _ => False
  | _ => True

theorem Call.Played.dry {s : Season} {c : Call} (h : c.Played s) : c.Dry s := by
  cases c <;> trivial

theorem Call.Played.orderly {s : Season} {c : Call} (h : c.Played s) : c.Orderly s := by
  cases c <;> trivial

theorem Moved.grown {s s' : Season} {c : Call} (hc : c.Played s) (h : Moved s c s') :
    Game.Grown s.game s'.game := by
  cases h with
  | refused => exact .refl _
  | rained rainfall => exact .refl _
  | build clock m he hm => exact ⟨(Game.reset_grown hm).parcels, (Game.reset_grown hm).assets,
      (Game.reset_grown hm).entries⟩
  | allocation rainfall water clock m he hm => exact Game.distribute_grown hm
  | revenue clock r g he ha hg =>
    obtain ⟨players, rfl⟩ := Game.credits_eq_ok hg
    exact ⟨Nat.le_refl _, Nat.le_refl _, Nat.le_refl _⟩
  | change c asset player n m ho hm => exact Game.change_grown hm
  | deal d g hg => exact hc.elim

theorem grown_of_run {s s' : Season} (h : Run Call.Played s s') : Game.Grown s.game s'.game :=
  h.invariant (P := fun t => Game.Grown s.game t.game)
    (fun t c hc ht => ht.trans ((after_moved t c).grown hc)) (.refl _)

theorem configured_after {s : Season} (hs : s.strategies.Configured) (c : Call) :
    (s.after c).strategies.Configured := by
  -- no call touches the strategies, except that rain moves the generator on
  have hstay : ∀ {s' : Season}, Moved s c s' → c ≠ .startAllocation → s'.strategies.Configured := by
    intro s' h hc
    cases h with
    | rained => exact absurd rfl hc
    | allocation => exact absurd rfl hc
    | _ => exact hs
  by_cases hc : c = .startAllocation
  · subst hc
    show s.startAllocation.season.strategies.Configured
    rw [startAllocation_eq]
    cases hr : s.tryRain with
    | error e => exact hs
    | ok x =>
      obtain ⟨water, rainfall⟩ := x
      have hrained : (s.withRainfall rainfall).strategies.Configured :=
        ⟨(tryRain_eq_ok hr).configured hs.1, hs.2⟩
      refine attempt_of (P := fun s => s.strategies.Configured) hrained fun s' notices a h => ?_
      obtain ⟨clock, _, h⟩ := bind_eq_ok.mp h
      obtain ⟨m, _, h⟩ := bind_eq_ok.mp h
      cases h
      exact hrained
  · exact hstay (after_moved s c) hc

structure Ready (rounds : Count) (s : Season) : Prop where
  step : ∃ done, InStep rounds s done
  conserved : Conserved s
  rationed : Rationed s
  configured : s.strategies.Configured

variable {rounds : Count} {s : Season}

theorem Ready.max (hs : Ready rounds s) : s.clock.max = rounds := by
  obtain ⟨_, hstep⟩ := hs.step
  exact hstep.max

theorem Ready.bounded (hs : Ready rounds s) : s.clock.round.val ≤ rounds.val := by
  obtain ⟨_, hstep⟩ := hs.step
  exact hstep.bounded

theorem Ready.after {c : Call} (hs : Ready rounds s) (hc : c.Played s) :
    Ready rounds (s.after c) := by
  obtain ⟨done, hstep⟩ := hs.step
  exact ⟨⟨_, hstep.after c⟩, (after_moved s c).conserved hc.orderly hs.conserved,
    (after_moved s c).rationed hc.dry hs.conserved.accepting hs.rationed,
    configured_after hs.configured c⟩

theorem Ready.run {s' : Season} (hs : Ready rounds s) (h : Run Call.Played s s') : Ready rounds s' :=
  h.invariant (fun _ _ hc ht => ht.after hc) hs

theorem ofConfig_ready {fresh : Nat → Uuid} {config : Config} {f : Founding} {s₀ : Season}
    (h : ofConfig fresh config = .ok (s₀, f)) :
    Ready config.game.maxRounds s₀ ∧ s₀.clock = ⟨0, .revenue, config.game.maxRounds⟩ := by
  obtain ⟨_, hg, hstart⟩ := ofConfig_eq_ok h
  refine ⟨⟨⟨_, .of_start (founded_frame hg).1 hstart⟩,
    (Initial.configured fresh config f h).conserved, (ofConfig_rationed h .refl).2, ?_⟩, ?_⟩
  · obtain ⟨strategies, hk, h⟩ := bind_eq_ok.mp h
    obtain ⟨founding, _, h⟩ := bind_eq_ok.mp h
    obtain ⟨season, hs, h⟩ := bind_eq_ok.mp h
    cases h
    rw [start_eq_ok hs]
    exact Strategies.ofKinds_configured (mapError_eq_ok.mp hk)
  · rw [start_eq_ok hstart]

inductive Stopped (s : Season) : SeasonFault → Prop
  | rain (hphase : s.clock.phase = .build)
    (h : s.strategies.rainfall.generate s.game.round s.game.toBoard =
      .error (.overflow s.game.round)) :
    Stopped s (.rainfall (.overflow s.game.round))
  | revenue (hphase : s.clock.phase = .allocation)
    (h : Revenue.byPlayer s.multipliers s.game.assets.toList = .error .overflow) :
    Stopped s (.economy .overflow)
  | money (hphase : s.clock.phase = .allocation) (r : Revenue) (p : Player) (n : Decimal)
    (hr : Revenue.byPlayer s.multipliers s.game.assets.toList = .ok r)
    (hp : p ∈ s.game.players.toList) (hn : (p.id, n) ∈ r.toList) (h : p.money.add? n = none) :
    Stopped s (.game .overflow)

variable {e : SeasonFault}

theorem Ready.stopped_allocation (hs : Ready rounds s) (hphase : s.clock.phase = .build)
    (h : s.startAllocation.answer = .error e) : Stopped s.startAllocation.season e := by
  rcases startAllocation_eq_error hphase h with ⟨f, hf, rfl, hseason⟩ | ⟨water, f, hf⟩
  · obtain rfl := Rainfall.generate_eq_error hs.configured.1 hf
    rw [hseason]
    exact .rain hphase hf
  · obtain ⟨m, hm⟩ := Game.exists_distribute hs.configured.2 s.game water
    rw [hm] at hf
    cases hf

theorem Ready.stopped_revenue (hs : Ready rounds s) (hsmall : s.game.Small)
    (hphase : s.clock.phase = .allocation) (h : s.startRevenue.answer = .error e) :
    Stopped s.startRevenue.season e := by
  have hrunning : ¬ s.Finished := running_of_phase (by rw [hphase]; simp)
  obtain ⟨clock, he⟩ :=
    exists_enter (show s.clock.phase.next = .revenue by rw [hphase]; rfl) hrunning
  obtain ⟨hconservation, hholdings⟩ :=
    hs.conserved.balanced hsmall.parcels hsmall.assets hsmall.entries he
  have haudit : s.audit clock.round = .ok () := by rw [audit, hconservation, hholdings]
  rw [startRevenue_error h]
  rcases startRevenue_eq_error h with h | ⟨clock', he', h⟩
  · cases he.symm.trans h
  obtain rfl := Except.ok.inj (he.symm.trans he')
  rcases h with h | ⟨f, hf, rfl⟩ | ⟨r, f, hr, hf, rfl⟩
  · cases haudit.symm.trans h
  · cases f
    exact .revenue hphase hf
  · have hknown : ∀ x ∈ r.toList, s.game.Known x.1 := by
      intro x hx
      obtain ⟨a, ha, ho⟩ := (Revenue.contains_byPlayer hr x.1).mp (Roll.contains_iff.mpr ⟨x, hx, rfl⟩)
      exact ho ▸ hs.rationed.owned a ha
    obtain ⟨rfl, x, hx, p, hp, hid, hmoney⟩ := Game.credits_eq_error (Roll.nodup_keys r) hknown hf
    exact .money hphase r p x.2 hr hp (hid ▸ hx) hmoney

end Season
end Watershed
