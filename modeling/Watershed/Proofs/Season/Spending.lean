import Watershed.Proofs.Season.Call
import Watershed.Proofs.Season.Start

namespace Watershed

namespace Season

def Call.Dry (s : Season) : Call → Prop
  | .deal d => (Act.deal d).Dry s.game
  | _ => True

theorem payAll_run {g g' : Game} {r : Revenue} (h : payAll g r = .ok g') :
    Game.Run (fun _ a => ∃ p n, a = .credit p n) g g' := by
  unfold payAll at h
  obtain ⟨l, _⟩ := r
  dsimp only at h
  clear * - h
  induction l generalizing g with
  | nil =>
    obtain rfl := Except.ok.inj h
    exact .refl
  | cons x l ih =>
    obtain ⟨g₁, hg, h⟩ := bind_eq_ok.mp (List.foldlM_cons.symm.trans h)
    have hafter := Game.after_eq (a := .credit x.1 x.2) (toOption_eq_some.mpr hg)
    exact .head ⟨_, ⟨_, _, rfl⟩, hafter.symm⟩ (ih h)

structure Spending (s : Season) : Prop where
  spendable : s.game.Spendable
  writes : s.strategies.distributor.writesParcels = true

theorem Moved.spending {s s' : Season} {c : Call} (hc : c.Dry s) (hs : Spending s)
    (h : Moved s c s') : Spending s' := by
  cases h with
  | refused => exact hs
  | rained rainfall => exact ⟨hs.spendable, hs.writes⟩
  | build clock m he hm =>
    have hg : (s.game.setRound clock.round).Spendable :=
      Game.after_spendable (a := .setRound clock.round) trivial hs.spendable
    exact ⟨Game.reset_spendable hg hm, hs.writes⟩
  | allocation rainfall water clock m he hm =>
    exact ⟨Game.distribute_spendable hs.spendable hs.writes hm, hs.writes⟩
  | revenue clock r g he ha hg =>
    refine ⟨hs.spendable.run ((payAll_run hg).mono fun g a h => ?_), hs.writes⟩
    obtain ⟨p, n, rfl⟩ := h
    trivial
  | change c asset player n m ho hm => exact ⟨Game.change_spendable hs.spendable hm, hs.writes⟩
  | deal d g hg =>
    have hafter := Game.after_spendable (a := .deal d) hc hs.spendable
    rw [Game.after_eq (a := .deal d) hg] at hafter
    exact ⟨hafter, hs.writes⟩

theorem Spending.run {s s' : Season} (hs : Spending s) (h : Run (fun s c => c.Dry s) s s') :
    Spending s' :=
  h.invariant (fun s c hc hs => (after_moved s c).spending hc hs) hs

theorem ofConfig_spending {fresh : Nat → Uuid} {config : Config} {f : Founding} {s : Season}
    (h : ofConfig fresh config = .ok (s, f)) : Spending s := by
  obtain ⟨hw, hg, _⟩ := ofConfig_eq_ok h
  have hdry : Game.Run (fun g a => a.Dry g) .empty s.game := by
    refine hg.mono fun g a ha => ?_
    obtain ⟨_, _, hd⟩ := ha
    exact hd
  exact ⟨Game.spendable_empty.run hdry, hw⟩

theorem changeAtDesk_eq_error {s : Season} {asset : AssetId} {player : PlayerId} {n : Count}
    {e : AllocationFault} (h : (s.changeAtDesk asset player n).answer = .error (.allocation e)) :
    s.game.changeAllocation asset player n = .error e := by
  unfold changeAtDesk attempt at h
  split at h
  · cases h
  rename_i hr
  obtain rfl := Except.error.inj h
  split at hr
  · rcases bind_eq_error.mp hr with hr | ⟨_, _, hr⟩
    · obtain ⟨_, hr, he⟩ := mapError_eq_error.mp hr
      exact SeasonFault.allocation.inj he ▸ hr
    · cases hr
  · cases hr

theorem change_eq_error {s : Season} {asset : AssetId} {player : PlayerId} {n : Count}
    {e : AllocationFault} (h : (s.change asset player n).answer = .error (.allocation e)) :
    s.game.changeAllocation asset player n = .error e := by
  unfold Season.change desk at h
  split at h
  · rename_i hd
    split at hd
    · cases hd
    · cases hd
      cases h
  · exact changeAtDesk_eq_error h

theorem Spending.request_not_exhausted {s : Season} (hs : Spending s) {asset : AssetId}
    {player id : PlayerId} {n : Int} {k : Count} :
    (s.requestAtDesk asset player n).answer ≠ .error (.allocation (.exhausted id k)) := by
  intro h
  unfold requestAtDesk at h
  split at h
  · rename_i hr
    obtain rfl := SeasonFault.allocation.inj (Except.error.inj h)
    unfold Allocation.requested at hr
    split at hr <;> cases hr
  · exact hs.spendable.not_exhausted (changeAtDesk_eq_error h)

theorem water_spendable {fresh : Nat → Uuid} {config : Config} {f : Founding} {s₀ s : Season}
    (h₀ : ofConfig fresh config = .ok (s₀, f)) (h : Run (fun s c => c.Dry s) s₀ s) :
    (∀ p ∈ s.game.players.toList, p.water.val =
      Count.total ((s.game.parcels.toList.filter (·.waterOwner = some p.id)).map (·.water))) ∧
    (∀ a ∈ s.game.assets.toList, a.allocated.val ≤ a.usage.val ∧
      (a.divisible = false → a.allocated = 0 ∨ a.allocated = a.usage)) ∧
    (∀ asset player n id k,
      (s.change asset player n).answer ≠ .error (.allocation (.exhausted id k)) ∧
      (s.changeAtDesk asset player n).answer ≠ .error (.allocation (.exhausted id k))) ∧
    (∀ asset player n id k,
      (s.requestAtDesk asset player n).answer ≠ .error (.allocation (.exhausted id k))) ∧
    ∀ q ∈ s.game.parcels.toList, ∀ p ∈ s.game.players.toList, q.waterOwner = some p.id →
      (p.water.subDownTo q.water).val + q.water.val = p.water.val := by
  have hs : Spending s := (ofConfig_spending h₀).run h
  refine ⟨fun p hp => ?_, hs.spendable.fed, fun asset player n id k => ⟨fun he => ?_, fun he => ?_⟩,
    fun asset player n id k => hs.request_not_exhausted, fun q hq p hp ho => ?_⟩
  · rw [hs.spendable.water p hp, Roll.total_filter]
    simp only [Game.waterOf, decide_eq_true_eq]
  · exact hs.spendable.not_exhausted (change_eq_error he)
  · exact hs.spendable.not_exhausted (changeAtDesk_eq_error he)
  · have hle := hs.spendable.water_le hq hp ho
    rw [Count.val_subDownTo]
    omega

def millConfig : Config where
  game := ⟨"mill", 0, .clamp 3⟩
  strategies := ⟨.utopian, .fair, .parcelOriented, .series⟩
  water := ⟨some (.clamp 8), none, none, none, .empty⟩
  economy := .default
  scenario := {
    players := ["miller"]
    parcels := [⟨"meadow", "north", ⟨.zero, .zero⟩, some (.clamp 10), some "miller", some "miller"⟩]
    assets := [⟨"mill", "meadow", "miller", .factory, 1, .clamp 5, true, 0⟩] }

def millCalls : List Call :=
  [.startBuild, .startAllocation, .change ⟨.serial 2⟩ ⟨.serial 0⟩ (.clamp 3)]

theorem mill_spendable : ∃ s₀ f, ofConfig Uuid.serial millConfig = .ok (s₀, f) ∧
    (s₀.afterAll millCalls).game.players.toList.map (·.water.val) = [5] ∧
    ∀ q ∈ (s₀.afterAll millCalls).game.parcels.toList,
      ∀ p ∈ (s₀.afterAll millCalls).game.players.toList, q.waterOwner = some p.id →
        (p.water.subDownTo q.water).val + q.water.val = p.water.val := by
  have hwater : (match ofConfig Uuid.serial millConfig with
    | .ok (s₀, _) => (s₀.afterAll millCalls).game.players.toList.map (·.water.val)
    | .error _ => []) = [5] := by decide +kernel
  cases h₀ : ofConfig Uuid.serial millConfig with
  | error e =>
    rw [h₀] at hwater
    cases hwater
  | ok x =>
    rw [h₀] at hwater
    have hr : Run (fun s c => c.Dry s) x.1 (x.1.afterAll millCalls) :=
      .afterAll ⟨trivial, trivial, trivial, trivial⟩
    exact ⟨x.1, x.2, rfl, hwater, (water_spendable h₀ hr).2.2.2.2⟩

end Season
end Watershed
