import Watershed.Proofs.Game.Criterion
import Watershed.Proofs.Season.Protocol
import Watershed.Proofs.Season.Spending

namespace Watershed.Season

open Allocation

/-- How much water there is in each phase. In the allocation phase it can be more than has fallen,
as shares are rounded up, but not more than there are rights then. -/
structure Rationed (s : Season) : Prop where
  spending : Spending s
  owned : s.game.Owned
  idle : s.clock.phase = .build → s.game.Idle
  volume : s.clock.phase = .allocation →
    s.game.volume ≤ max s.game.allRights 18446744073709551615

theorem Moved.owned {s s' : Season} {c : Call} (hs : s.game.Owned) (h : Moved s c s') :
    s'.game.Owned := by
  have hact : ∀ {g g' : Game} {a : Act}, g.Owned → g.act? a = some g' → g'.Owned :=
    fun hg ha => Game.after_eq ha ▸ Game.after_owned hg
  cases h with
  | refused => exact hs
  | rained rainfall => exact hs
  | build clock m he hm =>
    have hround : (s.game.setRound clock.round).Owned := hact (a := .setRound _) hs rfl
    exact hact (a := .reset) hround (toOption_map_eq_some.mpr ⟨m, hm, rfl⟩)
  | allocation rainfall water clock m he hm =>
    exact hact (a := .distribute _ _) hs (toOption_map_eq_some.mpr ⟨m, hm, rfl⟩)
  | revenue clock r g he ha hg => exact hs.run (payAll_run hg)
  | change c asset player n m ho hm =>
    exact hact (a := .change _ _ _) hs (toOption_map_eq_some.mpr ⟨m, hm, rfl⟩)
  | deal d g hg => exact hact (a := .deal d) hs hg

theorem Moved.rationed {s s' : Season} {c : Call} (hc : c.Dry s)
    (ho : s.accepting = true → s.clock.phase = .allocation) (hs : Rationed s)
    (h : Moved s c s') : Rationed s' := by
  refine ⟨h.spending hc hs.spending, h.owned hs.owned, ?_, ?_⟩
  · intro hb
    cases h with
    | refused => exact hs.idle hb
    | rained rainfall => exact hs.idle hb
    | build clock m he hm => exact Game.reset_idle hm
    | allocation rainfall water clock m he hm =>
      obtain ⟨_, hphase, _⟩ := enter_allocation he
      cases hphase.symm.trans hb
    | revenue clock r g he ha hg =>
      obtain ⟨_, hphase, _⟩ := enter_revenue he
      cases hphase.symm.trans hb
    | change c asset player n m hopen hm => cases (ho hopen).symm.trans hb
    | deal d g hg => exact Game.deal_idle (hs.idle hb) hg
  · intro ha
    cases h with
    | refused => exact hs.volume ha
    | rained rainfall => exact hs.volume ha
    | build clock m he hm =>
      obtain ⟨_, hphase, _⟩ := enter_build he
      cases hphase.symm.trans ha
    | allocation rainfall water clock m he hm =>
      obtain ⟨hphase, _, _⟩ := enter_allocation he
      have hle := Game.distribute_volume hs.spending.spendable.rightful (hs.idle hphase)
        hs.spending.writes hm
      have hwater := Nat.le_of_lt_succ water.val_lt
      exact hle.trans (max_le_max_left _ hwater)
    | revenue clock r g he haudit hg =>
      obtain ⟨_, hphase, _⟩ := enter_revenue he
      cases hphase.symm.trans ha
    | change c asset player n m hopen hm =>
      have hrights := (Game.change_sameTitles hm).allRights
      refine (Game.change_volume hm).trans ((hs.volume ha).trans ?_)
      exact max_le_max_right _ hrights.ge
    | deal d g hg =>
      refine (Game.deal_volume hc hg).trans ((hs.volume ha).trans ?_)
      exact max_le_max_right _ (Game.deal_allRights hg)

theorem ofConfig_rationed {fresh : Nat → Uuid} {config : Config} {f : Founding} {s₀ s : Season}
    (h₀ : ofConfig fresh config = .ok (s₀, f)) (h : Run (fun s c => c.Dry s) s₀ s) :
    (∃ rounds done, InStep rounds s done) ∧ Rationed s := by
  obtain ⟨_, hg, hstart⟩ := ofConfig_eq_ok h₀
  have hphase : s₀.clock.phase = .revenue := by
    rw [start_eq_ok hstart]
  have hrationed : Rationed s₀ := by
    refine ⟨ofConfig_spending h₀, Game.owned_empty.run hg, fun hb => ?_, fun ha => ?_⟩
    · cases hphase.symm.trans hb
    · cases hphase.symm.trans ha
  refine h.invariant (P := fun s => (∃ rounds done, InStep rounds s done) ∧ Rationed s)
    (fun s c hc hs => ?_) ⟨⟨_, _, .of_start (founded_frame hg).1 hstart⟩, hrationed⟩
  obtain ⟨⟨rounds, done, hstep⟩, hs⟩ := hs
  exact ⟨⟨rounds, _, hstep.after c⟩, (after_moved s c).rationed hc hstep.accepting.mp hs⟩

theorem Rationed.volume_lt {s : Season} (hs : Rationed s) (hphase : s.clock.phase = .allocation)
    (hrights : Count.total (s.game.parcels.toList.map (·.rights)) ≤ 18446744073709551615) :
    s.game.volume < 18446744073709551616 := by
  have hle := hs.volume hphase
  have hall : s.game.allRights = Count.total (s.game.parcels.toList.map (·.rights)) :=
    Roll.total_map.symm
  omega

def ways (s : Season) (asset : AssetId) (player : PlayerId) (n : Count) : List (Turn Change) :=
  [s.change asset player n, s.changeAtDesk asset player n, s.requestAtDesk asset player n.val]

theorem answer_consult (s : Season) (asset : AssetId) (player : PlayerId) (n : Count) :
    (s.consult asset player n).answer = (s.game.answer asset player n).mapError .allocation := by
  unfold consult Game.answer
  cases s.game.changeAllocation asset player n <;> rfl

variable {s : Season}

theorem Open.way_eq (h : s.Open) {asset : AssetId} {player : PlayerId} {n : Count}
    {t : Turn Change} (ht : t ∈ s.ways asset player n) : t = s.consult asset player n := by
  obtain ⟨hchange, hdesk, hrequest⟩ := h.2 asset player n
  have hways : s.ways asset player n = List.replicate 3 (s.consult asset player n) := by
    rw [ways, hchange, hdesk, hrequest]
    rfl
  rw [hways] at ht
  exact List.eq_of_mem_replicate ht

theorem Open.answer_eq (h : s.Open) {asset : AssetId} {player : PlayerId} {n : Count}
    {t : Turn Change} (ht : t ∈ s.ways asset player n) :
    t.answer = (s.game.answer asset player n).mapError .allocation := by
  rw [h.way_eq ht, answer_consult]

theorem Open.granted_iff (h : s.Open) (hg : s.game.Spendable)
    (hv : s.game.volume < 18446744073709551616) {a : Asset} (ha : a ∈ s.game.assets.toList)
    {p : Player} (hp : p ∈ s.game.players.toList) (hid : p.id = a.owner) {n : Count}
    {t : Turn Change} (ht : t ∈ s.ways a.id a.owner n) :
    (∃ c, t.answer = .ok c) ↔ Grantable a p n := by
  have hverdict := hg.answer_verdict ha hp (n := n) fun _ => hv
  have hok : (∃ c, s.game.answer a.id p.id n = .ok c) ↔ verdict a p n = .ok () := by
    simp only [← hverdict, map_eq_ok, and_true]
  rw [← hid] at ht
  simp only [h.answer_eq ht, mapError_eq_ok]
  rw [hok, verdict_eq_ok]
  exact and_iff_right hid.symm

theorem Open.fault_of_error (h : s.Open) (hg : s.game.Spendable)
    (hv : s.game.volume < 18446744073709551616) {asset : AssetId} {player : PlayerId} {n : Count}
    {t : Turn Change} (ht : t ∈ s.ways asset player n) {e : SeasonFault}
    (he : t.answer = .error e) : ∃ fault, e = .allocation fault ∧ ¬ fault.Internal := by
  rw [h.answer_eq ht] at he
  obtain ⟨fault, hf, rfl⟩ := mapError_eq_error.mp he
  exact ⟨fault, rfl, hg.answer_not_internal hv hf⟩

theorem Open.fault_of_request (h : s.Open) (hg : s.game.Spendable)
    (hv : s.game.volume < 18446744073709551616) {asset : AssetId} {player : PlayerId} {n : Int}
    {e : SeasonFault} (he : (s.requestAtDesk asset player n).answer = .error e) :
    ∃ fault, e = .allocation fault ∧ ¬ fault.Internal := by
  cases n with
  | ofNat n =>
    -- requests beyond the range of counts are cut down to the greatest count
    have hdesk : s.changeAtDesk asset player (Count.clamp n) ∈ s.ways asset player (Count.clamp n) :=
      List.mem_cons_of_mem _ List.mem_cons_self
    exact h.fault_of_error hg hv hdesk he
  | negSucc n =>
    obtain rfl := Except.error.inj he
    exact ⟨_, rfl, id⟩

theorem granted_iff_grantable {fresh : Nat → Uuid} {config : Config} {f : Founding} {s₀ : Season}
    (h₀ : ofConfig fresh config = .ok (s₀, f)) (h : Run (fun s c => c.Dry s) s₀ s)
    (hphase : s.clock.phase = .allocation)
    (hrights : Count.total (s.game.parcels.toList.map (·.rights)) ≤ 18446744073709551615) :
    (∀ a ∈ s.game.assets.toList, ∃ p ∈ s.game.players.toList, p.id = a.owner ∧ ∀ n,
      (∀ t ∈ s.ways a.id a.owner n, (∃ c, t.answer = .ok c) ↔ Grantable a p n) ∧
      (n.val ≤ a.allocated.val → (a.divisible = true ∨ n = 0 ∨ n = a.usage) →
        ∀ t ∈ s.ways a.id a.owner n, ∃ c, t.answer = .ok c)) ∧
    (∀ asset player n, ∀ t ∈ s.ways asset player n, ∀ e, t.answer = .error e →
      ∃ fault, e = .allocation fault ∧ ¬ fault.Internal) ∧
    ∀ asset player (n : Int) e, (s.requestAtDesk asset player n).answer = .error e →
      ∃ fault, e = .allocation fault ∧ ¬ fault.Internal := by
  obtain ⟨⟨rounds, done, hstep⟩, hs⟩ := ofConfig_rationed h₀ h
  have hopen := hstep.open hphase
  have hspendable := hs.spending.spendable
  have hvolume := hs.volume_lt hphase hrights
  refine ⟨fun a ha => ?_, fun asset player n t ht e => hopen.fault_of_error hspendable hvolume ht,
    fun asset player n e => hopen.fault_of_request hspendable hvolume⟩
  obtain ⟨p, hp, hid⟩ := hs.owned a ha
  refine ⟨p, hp, hid, fun n => ⟨fun t => hopen.granted_iff hspendable hvolume ha hp hid,
    fun hn hlegal t ht => (hopen.granted_iff hspendable hvolume ha hp hid ht).mpr ?_⟩⟩
  exact ⟨hn.trans (hspendable.fed a ha).1, hlegal, fun hlt => absurd hn (Nat.not_le.mpr hlt)⟩

theorem mill_granted : ∃ s₀ f, ofConfig Uuid.serial millConfig = .ok (s₀, f) ∧
    (s₀.afterAll millCalls).game.assets.toList.map (·.allocated.val) = [3] ∧
    ∀ a ∈ (s₀.afterAll millCalls).game.assets.toList,
      ∀ t ∈ (s₀.afterAll millCalls).ways a.id a.owner 0, ∃ c, t.answer = .ok c := by
  have hrun : (match ofConfig Uuid.serial millConfig with
    | .ok (s₀, _) => ((s₀.afterAll millCalls).game.assets.toList.map (·.allocated.val),
        (s₀.afterAll millCalls).clock.phase,
        Count.total ((s₀.afterAll millCalls).game.parcels.toList.map (·.rights)))
    | .error _ => ([], .build, 0)) = ([3], .allocation, 10) := by decide +kernel
  cases h₀ : ofConfig Uuid.serial millConfig with
  | error e =>
    rw [h₀] at hrun
    cases hrun
  | ok x =>
    rw [h₀] at hrun
    obtain ⟨hassets, hrun⟩ := Prod.mk.inj hrun
    obtain ⟨hphase, hrights⟩ := Prod.mk.inj hrun
    have hr : Run (fun s c => c.Dry s) x.1 (x.1.afterAll millCalls) :=
      .afterAll ⟨trivial, trivial, trivial, trivial⟩
    refine ⟨x.1, x.2, rfl, hassets, fun a ha t ht => ?_⟩
    obtain ⟨p, _, _, hgranted⟩ := (granted_iff_grantable h₀ hr hphase
      (hrights.trans_le (by decide))).1 a ha
    exact (hgranted 0).2 (Nat.zero_le _) (Or.inr (Or.inl rfl)) t ht

end Watershed.Season
