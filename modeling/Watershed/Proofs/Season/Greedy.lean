import Watershed.Proofs.Season.Criterion
import Watershed.Proofs.Season.Hall
import Watershed.Proofs.Season.Transitions

namespace Watershed

open Season

def Tally.plus (t u : Tally) : Tally :=
  .upTo (t.accepted.toNat + u.accepted.toNat) (t.rejected.toNat + u.rejected.toNat)

theorem Tally.zero_plus (t : Tally) : Tally.plus ⟨0, 0⟩ t = t := by
  simp [plus, upTo, saturated_toNat]

theorem Tally.plus_zero (t : Tally) : t.plus ⟨0, 0⟩ = t := by
  simp [plus, upTo, saturated_toNat]

theorem saturated_add_step (m n : Nat) :
    saturated (m + (saturated (n + 1)).toNat) = saturated ((saturated (m + 1)).toNat + n) := by
  rw [toNat_saturated, toNat_saturated]
  exact saturated_eq (by omega)

theorem Tally.plus_count (t u : Tally) (got : Bool) : t.plus (u.count got) = (t.count got).plus u := by
  cases got
  · exact congrArg (Tally.mk _) (saturated_add_step t.rejected.toNat u.rejected.toNat)
  · exact congrArg (fun n => Tally.mk n _) (saturated_add_step t.accepted.toNat u.accepted.toNat)

def Errand.advance (p : PlayerId) (x : Season × Errand) : Season × Errand := x.2.step x.1 p

namespace Errand

open Function

theorem iterate_ask (s : Season) (p : PlayerId) (a : Asset) (l : List Asset) (t : Tally) :
    ∃ k ≤ 3, (advance p)^[k] (s, ⟨a :: l, .whole, t⟩) =
      ((s.ask p a).1, ⟨l, .whole, t.count (s.ask p a).2⟩) := by
  cases hfull : succeeded (s.changeAtDesk a.id p a.usage) with
  | true => exact ⟨1, by decide, by simp [advance, Errand.step, ask, hfull, settle]⟩
  | false =>
    cases hd : a.divisible with
    | true => exact ⟨3, Nat.le_refl _, by simp [advance, Errand.step, ask, hfull, hd, settle]⟩
    | false => exact ⟨1, by decide, by simp [advance, Errand.step, ask, hfull, hd, settle]⟩

theorem iterate_askAll (s : Season) (p : PlayerId) (l : List Asset) (t : Tally) {n : Nat}
    (hn : 3 * l.length ≤ n) : (advance p)^[n] (s, ⟨l, .whole, t⟩) =
      ((askAll p s l).1, ⟨[], .whole, t.plus (askAll p s l).2⟩) := by
  induction l generalizing s t n with
  | nil =>
    rw [askAll, Tally.plus_zero]
    exact iterate_fixed (step_nil rfl p) n
  | cons a l ih =>
    obtain ⟨k, hk, hask⟩ := iterate_ask s p a l t
    rw [List.length_cons] at hn
    obtain ⟨m, rfl⟩ := Nat.exists_eq_add_of_le (show k ≤ n by omega)
    rw [Nat.add_comm, iterate_add_apply, hask, ih _ _ (by omega)]
    simp only [askAll, Tally.plus_count]

end Errand

namespace Hall

open Function

theorem turn_eq (h : Hall) (p : PlayerId) :
    h.turn p = ⟨(Errand.advance p (h.season, h.errands p)).1,
      update h.errands p (Errand.advance p (h.season, h.errands p)).2⟩ := by
  refine congrArg (Hall.mk _) (funext fun q => ?_)
  rw [update_apply]
  rfl

theorem turns_replicate (h : Hall) (p : PlayerId) (n : Nat) :
    h.turns (List.replicate n p) = ⟨((Errand.advance p)^[n] (h.season, h.errands p)).1,
      update h.errands p ((Errand.advance p)^[n] (h.season, h.errands p)).2⟩ := by
  induction n generalizing h with
  | zero =>
    rw [iterate_zero_apply, update_eq_self]
    rfl
  | succ n ih =>
    show (h.turn p).turns (List.replicate n p) = _
    rw [ih, turn_eq]
    simp only [update_self, update_idem, iterate_succ_apply]

theorem turns_togo {h : Hall} {p : PlayerId} {l : List Asset} (he : h.errands p = .start l) :
    h.turns (List.replicate (h.errands p).togo p) = ⟨(askAll p h.season l).1,
      update h.errands p ⟨[], .whole, (askAll p h.season l).2⟩⟩ := by
  have htogo : 3 * l.length ≤ (h.errands p).togo := by
    rw [he]
    exact Nat.le_refl _
  have hasked := Errand.iterate_askAll h.season p l ⟨0, 0⟩ htogo
  rw [Tally.zero_plus, ← Errand.start, ← he] at hasked
  rw [turns_replicate, hasked]

theorem remaining_congr {h h' : Hall} {ps : List PlayerId}
    (he : ∀ p ∈ ps, h.errands p = h'.errands p) : h.remaining ps = h'.remaining ps := by
  refine List.flatMap_congr fun p hp => ?_
  rw [he p hp]

theorem turns_remaining (wanted : PlayerId → List Asset) {ps : List PlayerId} (hn : ps.Nodup)
    {h : Hall} (he : ∀ p ∈ ps, h.errands p = .start (wanted p)) :
    (h.turns (h.remaining ps)).season = (submit h.season (ps.map fun p => (p, wanted p))).1 ∧
      (h.turns (h.remaining ps)).tallies ps =
        (submit h.season (ps.map fun p => (p, wanted p))).2 ∧
      ∀ q ∉ ps, (h.turns (h.remaining ps)).errands q = h.errands q := by
  induction ps generalizing h with
  | nil => exact ⟨rfl, rfl, fun q _ => rfl⟩
  | cons p ps ih =>
    obtain ⟨hp, hn⟩ := List.nodup_cons.mp hn
    obtain ⟨h', hh'⟩ : ∃ h', h' = h.turns (List.replicate (h.errands p).togo p) := ⟨_, rfl⟩
    have hfirst := hh'.trans (turns_togo (he p List.mem_cons_self))
    have hother : ∀ q ≠ p, h'.errands q = h.errands q := by
      intro q hq
      rw [hfirst]
      exact update_of_ne hq _ _
    have hremaining : h.turns (h.remaining (p :: ps)) = h'.turns (h'.remaining ps) := by
      have hps : h.remaining ps = h'.remaining ps :=
        remaining_congr fun q hq => (hother q fun e => hp (e ▸ hq)).symm
      rw [hh', ← turns_append, ← hh', ← hps]
      rfl
    obtain ⟨hseason, htallies, hothers⟩ := ih hn (h := h') fun q hq =>
      (hother q fun e => hp (e ▸ hq)).trans (he q (List.mem_cons_of_mem p hq))
    rw [hremaining]
    refine ⟨?_, ?_, fun q hq => ?_⟩
    · rw [hseason, hfirst]
      rfl
    · have hself : ((h'.turns (h'.remaining ps)).errands p).tally =
          (askAll p h.season (wanted p)).2 := by
        rw [hothers p hp]
        simp only [hfirst, update_self]
      rw [tallies, List.map_cons, ← tallies, htallies, hself, hfirst]
      rfl
    · rw [hothers q fun e => hq (List.mem_cons_of_mem p e), hother q fun e => hq (e ▸ List.mem_cons_self)]

end Hall

namespace Season

theorem submitIn_nil (s : Season) : s.submitIn [] = s.submitAll := by
  obtain ⟨hseason, htallies, _⟩ := Hall.turns_remaining (wants s.game)
    (Roll.nodup_keys _ : (askers s.game).Nodup) (h := s.hall) fun p _ => rfl
  exact Prod.ext hseason htallies

theorem submitIn_of_settled {s : Season} {order : List PlayerId} (h : (s.hall.turns order).Settled) :
    s.submitIn order =
      ((s.hall.turns order).season, (s.hall.turns order).tallies (askers s.game)) := by
  have hremaining : (s.hall.turns order).remaining (askers s.game) = [] := by
    refine List.flatMap_eq_nil_iff.mpr fun p _ => ?_
    rw [(Errand.togo_eq_zero _).mpr (h p), List.replicate_zero]
  rw [submitIn, hremaining]
  rfl

theorem Rationed.opening {s : Season} (hs : Rationed s) {downpour : Downpour}
    (h : s.startAllocation.answer = .ok downpour) :
    Hall.Kept s.startAllocation.season s.startAllocation.season.hall := by
  have hspending := (after_moved s .startAllocation).spending (c := .startAllocation) trivial hs.spending
  obtain ⟨rainfall, water, clock, m, he, hm, hseason⟩ := startAllocation_eq_ok h
  have hidle := hs.idle (enter_allocation he).1
  obtain ⟨_, _, _, hg⟩ := Game.distribute_eq_ok hm
  refine .opening ?_ hspending ?_
  · rw [hseason]
  · rw [hseason]
    show m.game.Idle
    rw [← hg]
    exact hidle

theorem allocation_greedy {fresh : Nat → Uuid} {config : Config} {f : Founding} {s₀ s₁ s : Season}
    {downpour : Downpour} (h₀ : ofConfig fresh config = .ok (s₀, f))
    (h : Run (fun s c => c.Dry s) s₀ s₁) (hd : s₁.startAllocation.answer = .ok downpour)
    (hs : s₁.startAllocation.season = s) :
    (∀ p, (wants s.game p).Perm (s.game.assetsOf p) ∧ (wants s.game p).Pairwise Asset.Precedes) ∧
    (∀ order, ∃ rest, (s.hall.turns (order ++ rest)).Settled) ∧
    (∀ order, (s.hall.turns order).Settled →
      ∀ p ∈ s.game.players.toList, Hall.Spent s (s.hall.turns order) p) ∧
    ∃ order, (s.hall.turns order).Settled ∧ s.submitAll =
      ((s.hall.turns order).season, (s.hall.turns order).tallies (askers s.game)) := by
  have hopening := (ofConfig_rationed h₀ h).2.opening hd
  rw [hs] at hopening
  refine ⟨fun p => ⟨wants_perm s.game p, wants_pairwise s.game p⟩,
    fun order => ⟨_, turns_settled s order⟩,
    fun order hsettled p hp => (hopening.turns order).spent hsettled hp,
    _, turns_settled s [], ?_⟩
  rw [← submitIn_nil]
  rfl

def estates : Config where
  game := ⟨"estates", 0, .clamp 3⟩
  strategies := ⟨.utopian, .perParcel, .parcelOriented, .series⟩
  water := ⟨some (.clamp 300), none, none, none, .empty⟩
  economy := .default
  scenario := {
    players := ["miller", "landlord"]
    parcels := [
      ⟨"meadow", "north", ⟨.zero, .zero⟩, some (.clamp 300), some "miller", some "miller"⟩,
      ⟨"hill", "north", ⟨.zero, .zero⟩, some (.clamp 300), some "landlord", some "landlord"⟩]
    assets := [
      ⟨"mill", "meadow", "miller", .factory, 1, .clamp 250, false, .ofCount (.clamp 200)⟩,
      ⟨"field", "meadow", "miller", .crops, 1, .clamp 100, true, .ofCount (.clamp 40)⟩,
      ⟨"houses", "hill", "landlord", .houses, 1, .clamp 400, false, .ofCount (.clamp 500)⟩] }

def shares (w : Count) (l : List Asset) : List (String × Nat) :=
  (courses w l).map fun x => (x.1.name, (portion x.2 x.1).val)

theorem estates_greedy : ∃ s₀ f, ofConfig Uuid.serial estates = .ok (s₀, f) ∧ ∃ s,
    (s₀.after .startBuild).startAllocation.season = s ∧
    (s.game.players.toList.map fun p => shares p.water (wants s.game p.id)) =
      [[("mill", 250), ("field", 50)], [("houses", 0)]] ∧
    ∃ order, (s.hall.turns order).Settled ∧
      ∀ p ∈ s.game.players.toList, Hall.Spent s (s.hall.turns order) p := by
  have hrun : (match ofConfig Uuid.serial estates with
    | .ok (s₀, _) =>
      let t := (s₀.after .startBuild).startAllocation
      let g := t.season.game
      (succeeded t,
        decide (∀ p ∈ g.players.toList, (g.assetsOf p.id).Pairwise fun a b =>
          (!a.nominal.before b.nominal) = true),
        g.players.toList.map fun p => shares p.water (g.assetsOf p.id))
    | .error _ => (false, false, [])) =
      (true, true, [[("mill", 250), ("field", 50)], [("houses", 0)]]) := by
    decide +kernel
  cases h₀ : ofConfig Uuid.serial estates with
  | error e =>
    rw [h₀] at hrun
    cases hrun
  | ok x =>
    rw [h₀] at hrun
    obtain ⟨hdone, hrun⟩ := Prod.mk.inj hrun
    obtain ⟨hsorted, hshares⟩ := Prod.mk.inj hrun
    have hr : Run (fun s c => c.Dry s) x.1 (x.1.after .startBuild) :=
      .single ⟨.startBuild, trivial, rfl⟩
    cases hd : (x.1.after .startBuild).startAllocation.answer with
    | error e =>
      rw [succeeded, hd] at hdone
      cases hdone
    | ok downpour =>
      obtain ⟨_, hsettled, hspent, _⟩ := allocation_greedy h₀ hr hd rfl
      obtain ⟨order, horder⟩ := hsettled []
      refine ⟨x.1, x.2, rfl, _, rfl, ?_, _, horder, hspent _ horder⟩
      rw [← hshares]
      refine List.map_congr_left fun p hp => ?_
      rw [wants_of_pairwise (of_decide_eq_true hsorted p hp)]

end Season
end Watershed
