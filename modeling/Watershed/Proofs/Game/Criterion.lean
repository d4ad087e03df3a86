import Watershed.Proofs.Game.Capacity

namespace Watershed

def AllocationFault.Internal : AllocationFault → Prop
  | .exhausted _ _ | .overflow | .ledger _ | .game _ => True
  | _ => False

namespace Allocation

def Grantable (a : Asset) (p : Player) (n : Count) : Prop :=
  n.val ≤ a.usage.val ∧ (a.divisible = true ∨ n = 0 ∨ n = a.usage) ∧
    (a.allocated.val < n.val → n.val - a.allocated.val ≤ p.water.val)

def verdict (a : Asset) (p : Player) (n : Count) : Except AllocationFault Unit := do
  check a p n
  let required := n.subDownTo a.allocated
  if p.water < required then .error (.insufficient p.id required p.water) else .ok ()

theorem verdict_eq_ok {a : Asset} {p : Player} {n : Count} {u : Unit} :
    verdict a p n = .ok u ↔ a.owner = p.id ∧ Grantable a p n := by
  have hwater : ¬ p.water < n.subDownTo a.allocated ↔
      (a.allocated.val < n.val → n.val - a.allocated.val ≤ p.water.val) := by
    rw [Count.lt_iff, Count.val_subDownTo]
    omega
  have hdivisible : (a.divisible = false → n = 0 ∨ n = a.usage) ↔
      a.divisible = true ∨ n = 0 ∨ n = a.usage := by
    cases a.divisible <;> simp
  have hif : (if p.water < n.subDownTo a.allocated then
      Except.error (AllocationFault.insufficient p.id (n.subDownTo a.allocated) p.water)
      else .ok ()) = .ok u ↔ ¬ p.water < n.subDownTo a.allocated := by
    split <;> simp_all
  simp only [verdict, bind_eq_ok, check_eq_ok, exists_const, hif, hwater, hdivisible, Grantable,
    and_assoc]

theorem check_eq_error {a : Asset} {p : Player} {n : Count} {e : AllocationFault}
    (h : check a p n = .error e) : ¬ e.Internal := by
  unfold check at h
  split at h
  · obtain rfl := Except.error.inj h
    exact id
  split at h
  · obtain rfl := Except.error.inj h
    exact id
  split at h
  · obtain rfl := Except.error.inj h
    exact id
  · cases h

theorem verdict_eq_error {a : Asset} {p : Player} {n : Count} {e : AllocationFault}
    (h : verdict a p n = .error e) : ¬ e.Internal := by
  rcases bind_eq_error.mp h with h | ⟨_, _, h⟩
  · exact check_eq_error h
  · dsimp only at h
    split at h
    · obtain rfl := Except.error.inj h
      exact id
    · cases h

theorem exists_refill? {owned : Plan} {targets : List (ParcelId × Count)}
    (h : ∀ x ∈ targets, (owned.on x.1).val + x.2.val < 18446744073709551616) :
    ∃ balances, refill? owned targets = some balances := by
  have hmap := mapM_eq_some (f := fun x => ((owned.on x.1).add? x.2).map fun n => (x.1, n))
    (l := targets) (r := targets.map fun x => (x.1, (owned.on x.1).addUpTo x.2))
  refine ⟨_, Option.map_eq_some_iff.mpr ⟨_, hmap.mpr ⟨_, fun x hx => ?_, rfl⟩, rfl⟩⟩
  have hlt := h x hx
  refine Option.map_eq_some_iff.mpr ⟨_, Count.add?_eq_some.mpr ?_, rfl⟩
  rw [Count.val_addUpTo]
  omega

end Allocation

namespace Game

open Allocation

variable {g : Game} {a : Asset} {p : Player}

theorem Spendable.increase_cases (hg : Spendable g) (hp : p ∈ g.players.toList) (a : Asset)
    (n : Count) :
    (p.water < n.subDownTo a.allocated ∧ increase g a p n =
      .error (.insufficient p.id (n.subDownTo a.allocated) p.water)) ∨
    (¬ p.water < n.subDownTo a.allocated ∧ ∃ d, increase g a p n = .ok d) := by
  by_cases hlt : p.water < n.subDownTo a.allocated
  · exact Or.inl ⟨hlt, if_pos hlt⟩
  refine Or.inr ⟨hlt, ?_⟩
  simp only [increase, if_neg hlt]
  cases hdraw : draw (Allocation.ownedWater g p) a.parcel (n.subDownTo a.allocated) with
  | ok drawn => exact ⟨_, rfl⟩
  | error k =>
    have hshort := draw_eq_error hdraw
    rw [hg.ownedWater hp] at hshort
    exact absurd hshort hlt

theorem Spendable.water_le_sum (hg : Spendable g) (hp : p ∈ g.players.toList) :
    p.water.val ≤ g.parcels.sum fun q => q.water.val := by
  rw [hg.water p hp]
  refine List.sum_le_sum fun q _ => ?_
  split
  · exact Nat.le_refl _
  · exact Nat.zero_le _

theorem Spendable.decrease_ok (hg : Spendable g) (hv : g.volume < 18446744073709551616)
    (ha : a ∈ g.assets.toList) (hp : p ∈ g.players.toList) {n : Count}
    (hn : n.val < a.allocated.val) : ∃ d, decrease g a p n = .ok d := by
  have hasset : a.allocated.val ≤ g.assets.sum fun a => a.allocated.val :=
    Roll.le_sum ha (f := fun a => a.allocated.val)
  have hplayer := hg.water_le_sum hp
  have hsurplus : 0 < (a.allocated.subDownTo n).val := by
    rw [Count.val_subDownTo]
    omega
  rw [volume] at hv
  simp only [decrease]
  split
  · exact ⟨_, rfl⟩
  rename_i hne
  -- what a parcel or the player will have is part of the water that there is, and that is a count
  have hs := giveBack_spec a.parcel (fun e => hne (giveBack_eq_nil e)) hsurplus
  have htotal := hs.total
  rw [Count.val_subDownTo] at htotal
  obtain ⟨balances, hb⟩ : ∃ balances, refill? (Allocation.ownedWater g p)
      (giveBack (Allocation.ownedWater g p) a.parcel (a.allocated.subDownTo n)) = some balances := by
    refine exists_refill? fun x hx => ?_
    obtain ⟨q, hq, hid⟩ := contains_ownedWater.mp (hs.known x hx)
    have hparcel : q.water.val ≤ g.parcels.sum fun q => q.water.val :=
      Roll.le_sum hq.1 (f := fun q => q.water.val)
    have hpart := Count.le_total (List.mem_map_of_mem (f := (·.2)) hx)
    rw [← hid, hq.on_ownedWater]
    omega
  obtain ⟨water, hw⟩ : ∃ water, p.water.add? (a.allocated.subDownTo n) = some water := by
    refine Count.exists_ofNat? ?_
    rw [Count.val_subDownTo]
    omega
  rw [hb, hw]
  exact ⟨_, rfl⟩

theorem Spendable.answer_verdict (hg : Spendable g) (ha : a ∈ g.assets.toList)
    (hp : p ∈ g.players.toList) {n : Count}
    (hv : n.val < a.allocated.val → g.volume < 18446744073709551616) :
    (g.answer a.id p.id n).map (fun _ => ()) = verdict a p n := by
  have hfp : g.players.find? p.id = some p := Roll.find?_of_mem hp
  have hfa : g.assets.find? a.id = some a := Roll.find?_of_mem ha
  rw [answer_eq, hfp, hfa]
  dsimp only
  rw [verdict]
  cases check a p n with
  | error e => rfl
  | ok _ =>
    simp only [bind, Except.bind]
    by_cases hlt : a.allocated < n
    · have hne : n ≠ a.allocated := fun e => Nat.lt_irrefl n.val (e ▸ hlt)
      rw [if_neg hne, propose, if_pos hlt]
      rcases hg.increase_cases hp a n with ⟨hw, h⟩ | ⟨hw, d, h⟩
      · rw [h, if_pos hw]
        rfl
      · rw [h, if_neg hw]
        rfl
    · have hw : ¬ p.water < n.subDownTo a.allocated := by
        rw [Count.lt_iff, Count.val_subDownTo]
        rw [Count.lt_iff] at hlt
        omega
      rw [if_neg hw, propose, if_neg hlt]
      by_cases hn : n = a.allocated
      · rw [if_pos hn]
        rfl
      · have hne : n.val ≠ a.allocated.val := fun e => hn (Count.ext e)
        rw [Count.lt_iff] at hlt
        have hless : n.val < a.allocated.val := by omega
        obtain ⟨d, h⟩ := hg.decrease_ok (hv hless) ha hp hless
        rw [if_neg hn, h]
        rfl

theorem Spendable.answer_not_internal (hg : Spendable g) (hv : g.volume < 18446744073709551616)
    {asset : AssetId} {player : PlayerId} {n : Count} {e : AllocationFault}
    (h : g.answer asset player n = .error e) : ¬ e.Internal := by
  have hopen := h
  rw [answer_eq] at hopen
  split at hopen
  · obtain rfl := Except.error.inj hopen
    exact id
  · obtain rfl := Except.error.inj hopen
    exact id
  rename_i p a hp ha
  obtain rfl : p.id = player := Roll.key_of_find? hp
  obtain rfl : a.id = asset := Roll.key_of_find? ha
  have hverdict := hg.answer_verdict (Roll.mem_of_find? ha) (Roll.mem_of_find? hp) (n := n) fun _ => hv
  rw [h] at hverdict
  exact verdict_eq_error hverdict.symm

theorem drawn_of_idle {g : Game} {a : Asset} {p : Player} {c : Change} (hc : c.Sound g a p)
    (h : a.allocated = 0) : c.lost = 0 := by
  by_contra hl
  have hempty : c.drawn = [] := by
    refine List.eq_nil_iff_forall_not_mem.mpr fun x hx => ?_
    obtain ⟨q, hq, _⟩ := hc.drawnOwn x hx
    exact hc.lostOnly hl q hq
  have hmoved := hc.moved
  rw [Change.drawnSum, hempty, h] at hmoved
  simp only [List.map_nil, Count.total, Count.val_zero] at hmoved
  have hpos := Count.pos_of_ne hl
  omega

theorem Spendable.water_idle (hg : Spendable g) (ha : a ∈ g.assets.toList)
    (hp : p ∈ g.players.toList) (ho : a.owner = p.id) (h : a.allocated = 0) {n : Count}
    (hn : n.val ≤ a.usage.val) (hd : a.divisible = true ∨ n = 0 ∨ n = a.usage) :
    (n.val ≤ p.water.val ∧ ∃ m, g.changeAllocation a.id p.id n = .ok m ∧
      m.game.players = g.players.put { p with water := p.water.subDownTo n } ∧
      m.game.assets = g.assets.put { a with allocated := n }) ∨
    (p.water.val < n.val ∧ ∃ e, g.changeAllocation a.id p.id n = .error e) := by
  have hverdict := hg.answer_verdict ha hp (n := n) fun hlt => by
    rw [h] at hlt
    exact absurd hlt (Nat.not_lt_zero _)
  have hgrantable : Grantable a p n ↔ n.val ≤ p.water.val := by
    simp only [Grantable, hn, hd, h, true_and, Count.val_zero]
    omega
  cases hm : g.changeAllocation a.id p.id n with
  | ok m =>
    refine Or.inl ⟨?_, m, rfl, ?_⟩
    · rw [answer, hm] at hverdict
      exact hgrantable.mp (verdict_eq_ok.mp hverdict.symm).2
    · obtain ⟨hcurrent, _, hc⟩ := changeAllocation_of_mem ha hp hm
      obtain ⟨water, hplayers, hsum⟩ := hc.players
      have hmoved := hc.sound.moved
      rw [drawn_of_idle hc.sound h, h, hcurrent, Count.val_zero] at hmoved
      have hwater : water = p.water.subDownTo n := by
        refine Count.ext ?_
        rw [Count.val_subDownTo]
        omega
      rw [hplayers, hc.assets, hcurrent, hwater]
      exact ⟨rfl, rfl⟩
  | error e =>
    refine Or.inr ⟨?_, e, rfl⟩
    by_contra hle
    rw [answer, hm, verdict_eq_ok (u := ()).mpr ⟨ho, hgrantable.mpr (by omega)⟩] at hverdict
    cases hverdict

end Game
end Watershed
