import Watershed.Proofs.Game.Trading
import Watershed.Proofs.Game.Undo
import Watershed.Proofs.Season.Criterion

namespace Watershed.Season

variable {s : Season}

theorem consult_of_ok {asset : AssetId} {player : PlayerId} {n : Count} {m : Move Change}
    (h : s.game.changeAllocation asset player n = .ok m) :
    s.consult asset player n = ⟨{ s with game := m.game }, m.notices, [], .ok m.result⟩ := by
  rw [consult, h]
  rfl

theorem consult_eq_ok {asset : AssetId} {player : PlayerId} {n : Count} {c : Change}
    (h : (s.consult asset player n).answer = .ok c) :
    ∃ m, s.game.changeAllocation asset player n = .ok m ∧ m.result = c := by
  rw [answer_consult, mapError_eq_ok] at h
  exact Game.answer_eq_ok.mp h

theorem InStep.consult_open {rounds : Count} {done : List (Phase × Nat)} (h : InStep rounds s done)
    (hphase : s.clock.phase = .allocation) {asset : AssetId} {player : PlayerId} {n : Count}
    {m : Move Change} (hm : s.game.changeAllocation asset player n = .ok m) :
    Open { s with game := m.game } := by
  have hafter : s.after (.changeAtDesk asset player n) = { s with game := m.game } := by
    rw [Season.after, ((h.open hphase).2 asset player n).2.1, consult_of_ok hm]
  have hstep := h.after (.changeAtDesk asset player n)
  rw [hafter] at hstep
  exact hstep.open hphase

theorem change_undone {fresh : Nat → Uuid} {config : Config} {f : Founding} {s₀ s : Season}
    (h₀ : ofConfig fresh config = .ok (s₀, f)) (h : Run (fun s c => c.Dry s) s₀ s)
    (hphase : s.clock.phase = .allocation)
    (hrights : Count.total (s.game.parcels.toList.map (·.rights)) ≤ 18446744073709551615)
    {a : Asset} (ha : a ∈ s.game.assets.toList) {n : Count} (hn : n ≠ a.allocated)
    {t : Turn Change} (ht : t ∈ s.ways a.id a.owner n) {c : Change} (hc : t.answer = .ok c)
    (hlost : c.lost = 0) {t' : Turn Change} (ht' : t' ∈ t.season.ways a.id a.owner a.allocated) :
    (∃ c', t'.answer = .ok c' ∧ c'.lost = 0) ∧
      t'.season.game.assets = s.game.assets ∧ t'.season.game.players = s.game.players ∧
      (∀ p ∈ s.game.players.toList,
        Count.total ((t'.season.game.parcels.toList.filter (·.waterOwner = some p.id)).map (·.water)) =
          Count.total ((s.game.parcels.toList.filter (·.waterOwner = some p.id)).map (·.water))) ∧
      ((∃ q ∈ s.game.parcels.toList, q.id = a.parcel ∧ q.waterOwner = some a.owner) →
        (n.val < a.allocated.val ∨ ∀ x ∈ c.drawn, x.1 = a.parcel) →
          t'.season.game.parcels = s.game.parcels) := by
  obtain ⟨⟨rounds, done, hstep⟩, hs⟩ := ofConfig_rationed h₀ h
  have hg := hs.spending.spendable
  obtain ⟨p, hp, hid⟩ := hs.owned a ha
  obtain rfl := (hstep.open hphase).way_eq ht
  obtain ⟨m, hm, rfl⟩ := consult_eq_ok hc
  rw [consult_of_ok hm] at ht'
  obtain rfl := (hstep.consult_open hphase hm).way_eq ht'
  rw [← hid] at hm ⊢
  obtain ⟨water, m', hback, htaken⟩ :=
    hg.take_back (hs.volume_lt hphase hrights) ha hp hid.symm hm hlost
  have hconsult := consult_of_ok (s := { s with game := m.game }) hback
  have hplayers := htaken.players_eq hp
  rw [hconsult]
  refine ⟨⟨_, rfl, htaken.back_lossless⟩, htaken.assets_eq ha, hplayers, fun p' hp' => ?_,
    fun ⟨q, hq, hhome, ho⟩ hcase => ?_⟩
  · have hg' := Game.change_spendable (Game.change_spendable hg hm) hback
    have hold := hg.water p' hp'
    have hnew := hg'.water p' (hplayers ▸ hp')
    simp only [Roll.total_filter, decide_eq_true_eq]
    exact hnew.symm.trans hold
  · have howns : Allocation.Owns s.game p q :=
      ⟨hq, ho, (hg.rightful.rights p hp q.id).mpr ⟨q, hq, rfl, ho⟩⟩
    have hne : n.val ≠ a.allocated.val := fun e => hn (Count.ext e)
    by_cases hlt : n.val < a.allocated.val
    · exact htaken.lowered_home howns hhome hlt
    · exact htaken.raised_home howns hhome (by omega) (hcase.resolve_left hlt)

def wateredMill : Asset :=
  ⟨⟨.serial 2⟩, "mill", .factory, 1, ⟨.serial 1⟩, ⟨.serial 0⟩, .clamp 5, .clamp 3, true, 0⟩

theorem mill_change_undone : ∃ s₀ f, ofConfig Uuid.serial millConfig = .ok (s₀, f) ∧
    let s := s₀.afterAll millCalls
    let t := s.change wateredMill.id wateredMill.owner 0
    let t' := t.season.change wateredMill.id wateredMill.owner wateredMill.allocated
    t.season.game.parcels ≠ s.game.parcels ∧ t'.season.game.parcels = s.game.parcels := by
  have hrun : (ofConfig Uuid.serial millConfig).toOption.map (fun x =>
      let s := x.1.afterAll millCalls
      let t := s.change wateredMill.id wateredMill.owner 0
      decide (s.clock.phase = .allocation ∧ Count.total (s.game.parcels.toList.map (·.rights)) = 10 ∧
        wateredMill ∈ s.game.assets.toList ∧
        (∃ q ∈ s.game.parcels.toList, q.id = wateredMill.parcel ∧
          q.waterOwner = some wateredMill.owner) ∧
        t.answer.toOption.map (·.lost) = some 0 ∧ t.season.game.parcels ≠ s.game.parcels)) =
      some true := by
    decide +kernel
  obtain ⟨⟨s₀, f⟩, h₀, hrun⟩ := toOption_map_eq_some.mp hrun
  obtain ⟨hphase, hrights, ha, hhome, hlost, hmoved⟩ := of_decide_eq_true hrun
  obtain ⟨c, hc, hlost⟩ := toOption_map_eq_some.mp hlost
  have hr : Run (fun s c => c.Dry s) s₀ (s₀.afterAll millCalls) :=
    .afterAll ⟨trivial, trivial, trivial, trivial⟩
  have hundone := change_undone h₀ hr hphase (hrights.trans_le (by decide)) ha
    (show (0 : Count) ≠ wateredMill.allocated by decide) List.mem_cons_self hc hlost
    List.mem_cons_self
  exact ⟨s₀, f, h₀, hmoved, hundone.2.2.2.2 hhome (Or.inl (by decide))⟩

theorem trades_path_independent {fresh : Nat → Uuid} {config : Config} {f : Founding}
    {s₀ s : Season} (h₀ : ofConfig fresh config = .ok (s₀, f)) (h : Run (fun s c => c.Dry s) s₀ s) :
    (∀ trades trades' : List (ParcelId × Option PlayerId),
      (∀ q ∈ (s.game.afterAll (transfers trades)).parcels.toList,
        ∀ q' ∈ (s.game.afterAll (transfers trades')).parcels.toList, q.id = q'.id →
          q.waterOwner = q'.waterOwner) →
        s.game.afterAll (transfers trades) = s.game.afterAll (transfers trades')) ∧
    (∀ q ∈ s.game.parcels.toList, ∀ taker m, s.game.transferWater q.id taker = .ok m →
      ∃ m', m.game.transferWater q.id q.waterOwner = .ok m' ∧ m'.game = s.game) ∧
    (∀ trades : List (ParcelId × Option PlayerId),
      (s.game.afterAll (transfers trades)).held = s.game.held ∧
      ((s.game.afterAll (transfers trades)).parcels.toList.map fun q => (q.id, q.water)) =
        (s.game.parcels.toList.map fun q => (q.id, q.water)) ∧
      Count.total (s.game.afterAll (transfers trades)).toBoard.demand =
        Count.total s.game.toBoard.demand) ∧
    ∀ (x : Scene) id taker, match (Game.transferSteps id taker).run x with
      | .error e t => x.game.transferWater id taker = .error e ∧ t = x ∧
          x.game.after (.deal (.transferWater id taker)) = x.game
      | .ok _ t => t.game = x.game.after (.deal (.transferWater id taker)) := by
  have hg : s.game.Spendable := ((ofConfig_spending h₀).run h).spendable
  refine ⟨fun trades trades' => hg.trades_eq, fun q hq taker m => hg.transfer_back hq,
    fun trades => ?_, Game.transferSteps_fail⟩
  have htraded := Game.transfers_traded s.game trades
  refine ⟨?_, htraded.waters, ?_⟩
  · rw [Game.held_eq, Game.held_eq, htraded.volume]
  · rw [(hg.transfers trades).rightful.total_demand, hg.rightful.total_demand, htraded.allRights]

def meadowAndBack : List (ParcelId × Option PlayerId) :=
  [(⟨.serial 1⟩, none), (⟨.serial 7⟩, none), (⟨.serial 1⟩, some ⟨.serial 0⟩)]

theorem meadow_traded_back : ∃ s₀ f, ofConfig Uuid.serial millConfig = .ok (s₀, f) ∧
    let g := (s₀.afterAll millCalls).game
    (g.afterAll (transfers [(⟨.serial 1⟩, none)])).players.toList.map (·.water.val) = [0] ∧
      g.afterAll (transfers meadowAndBack) = g := by
  have hrun : (ofConfig Uuid.serial millConfig).toOption.map (fun x =>
      let g := (x.1.afterAll millCalls).game
      ((g.afterAll (transfers [(⟨.serial 1⟩, none)])).players.toList.map (·.water.val),
        (g.afterAll (transfers meadowAndBack)).parcels.toList.map (·.waterOwner),
        g.parcels.toList.map (·.waterOwner))) =
      some ([0], [some ⟨.serial 0⟩], [some ⟨.serial 0⟩]) := by
    decide +kernel
  obtain ⟨⟨s₀, f⟩, h₀, hrun⟩ := toOption_map_eq_some.mp hrun
  simp only [Prod.mk.injEq] at hrun
  obtain ⟨hwater, hback, hbefore⟩ := hrun
  have hr : Run (fun s c => c.Dry s) s₀ (s₀.afterAll millCalls) :=
    .afterAll ⟨trivial, trivial, trivial, trivial⟩
  refine ⟨s₀, f, h₀, hwater, ?_⟩
  apply (trades_path_independent h₀ hr).1 meadowAndBack []
  intro q hq q' hq' _
  have hq' : q' ∈ (s₀.afterAll millCalls).game.parcels.toList := hq'
  have ho := List.mem_map_of_mem (f := (·.waterOwner)) hq
  have ho' := List.mem_map_of_mem (f := (·.waterOwner)) hq'
  rw [hback, List.mem_singleton] at ho
  rw [hbefore, List.mem_singleton] at ho'
  exact ho.trans ho'.symm

end Watershed.Season
