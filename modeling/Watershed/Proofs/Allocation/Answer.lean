import Watershed.Proofs.Allocation.Change

namespace Watershed

theorem Change.mem_entries {c : Change} {round : Count} {e : Entry} :
    e ∈ c.entries round ↔
      (∃ x ∈ c.drawn, Entry.allocate round x.2 x.1 c.asset c.player = e) ∨
      (∃ x ∈ c.returned, Entry.giveBack round x.2 c.asset x.1 c.player = e) ∨
      (c.lost ≠ 0 ∧ Entry.forfeit round c.lost c.asset c.player = e) := by
  by_cases hl : c.lost = 0 <;> simp [entries, hl, eq_comm]

theorem Change.Sound.wellFormed {g : Game} {a : Asset} {p : Player} {c : Change}
    (h : c.Sound g a p) (round : Count) : ∀ e ∈ c.entries round, e.WellFormed := by
  intro e he
  rcases mem_entries.mp he with ⟨x, hx, rfl⟩ | ⟨x, hx, rfl⟩ | ⟨hl, rfl⟩
  · exact Entry.wellFormed_allocate x.1 c.asset c.player (h.drawnPos x hx)
  · exact Entry.wellFormed_giveBack c.asset x.1 c.player (h.returnedPos x hx)
  · exact Entry.wellFormed_forfeit c.asset c.player (Count.pos_of_ne hl)

namespace Allocation

theorem Proposal.Sound.commit {g : Game} {a : Asset} {p : Player} {n : Count} {d : Proposal}
    (hd : d.Sound g a p n) : (commit g a p d).map (·.result) = .ok d.change := by
  have hl : g.ledger.recordAll d.entries = .ok (g.ledger.appendAll d.entries) := by
    refine Ledger.recordAll_eq_ok.mpr ⟨?_, rfl⟩
    rw [hd.entries]
    exact hd.change.wellFormed g.round
  rw [Allocation.commit, hl]
  rfl

inductive Planned (g : Game) (a : Asset) (p : Player) (n : Count) : Change → Prop
  | unchanged (h : n = a.allocated) : Planned g a p n (.unchanged a.id p.id a.allocated)
  | raised (drawn : List (ParcelId × Count)) (h : a.allocated.val < n.val)
    (hd : draw (ownedWater g p) a.parcel (n.subDownTo a.allocated) = .ok drawn) :
    Planned g a p n
      { Change.unchanged a.id p.id a.allocated with current := n, drawn := drawn }
  | lowered (targets : List (ParcelId × Count)) (h : n.val < a.allocated.val) (hne : targets ≠ [])
    (ht : giveBack (ownedWater g p) a.parcel (a.allocated.subDownTo n) = targets) :
    Planned g a p n
      { Change.unchanged a.id p.id a.allocated with current := n, returned := targets }
  | lost (h : n.val < a.allocated.val)
    (ht : giveBack (ownedWater g p) a.parcel (a.allocated.subDownTo n) = []) :
    Planned g a p n
      { Change.unchanged a.id p.id a.allocated with
        current := n
        lost := a.allocated.subDownTo n }

theorem increase_planned {g : Game} {a : Asset} {p : Player} {n : Count} {d : Proposal}
    (hn : a.allocated.val < n.val) (h : increase g a p n = .ok d) : Planned g a p n d.change := by
  simp only [increase] at h
  split at h
  · cases h
  obtain ⟨drawn, hdraw, hd⟩ := bind_eq_ok.mp h
  obtain rfl := Except.ok.inj hd
  exact .raised drawn hn (mapError_eq_ok.mp hdraw)

theorem decrease_planned {g : Game} {a : Asset} {p : Player} {n : Count} {d : Proposal}
    (hn : n.val < a.allocated.val) (h : decrease g a p n = .ok d) : Planned g a p n d.change := by
  simp only [decrease] at h
  split at h
  · rename_i hnil
    obtain rfl := Except.ok.inj h
    exact .lost hn hnil
  · rename_i hne
    split at h
    · obtain rfl := Except.ok.inj h
      exact .lowered _ hn hne rfl
    · cases h

theorem propose_planned {g : Game} {a : Asset} {p : Player} {n : Count} {d : Proposal}
    (hn : n ≠ a.allocated) (h : propose g a p n = .ok d) : Planned g a p n d.change := by
  have hne : n.val ≠ a.allocated.val := fun e => hn (Count.ext e)
  unfold propose at h
  split at h
  · rename_i hlt
    exact increase_planned hlt h
  · rename_i hlt
    have hlt : ¬ a.allocated.val < n.val := hlt
    exact decrease_planned (by omega) h

theorem Planned.totals {g : Game} {a : Asset} {p : Player} {n : Count} {c : Change}
    (h : Planned g a p n c) :
    c.totalDrawn.val = c.drawnSum ∧ c.totalReturned.val = c.returnedSum := by
  have hsum : ∀ {l : List (ParcelId × Count)} {k : Count}, Count.total (l.map (·.2)) = k.val →
      (Count.sumUpTo (l.map (·.2))).val = Count.total (l.map (·.2)) := by
    intro l k hk
    have hlt := k.val_lt
    rw [Count.sumUpTo, Count.val_clamp]
    omega
  cases h with
  | unchanged h => exact ⟨rfl, rfl⟩
  | raised drawn h hd => exact ⟨hsum (draw_eq_ok hd).total, rfl⟩
  | lowered targets h hne ht =>
    subst ht
    refine ⟨rfl, hsum (k := a.allocated.subDownTo n) ?_⟩
    refine (giveBack_spec a.parcel (fun e => hne (giveBack_eq_nil e)) ?_).total
    rw [Count.val_subDownTo]
    omega
  | lost h ht => exact ⟨rfl, rfl⟩

end Allocation

namespace Game

def answer (g : Game) (asset : AssetId) (player : PlayerId) (n : Count) :
    Except AllocationFault Change :=
  (g.changeAllocation asset player n).map (·.result)

theorem answer_eq (g : Game) (asset : AssetId) (player : PlayerId) (n : Count) :
    g.answer asset player n = match g.players.find? player, g.assets.find? asset with
      | none, _ => .error (.playerNotFound player)
      | _, none => .error (.assetNotFound asset)
      | some p, some a => Allocation.check a p n >>= fun _ =>
        if n = a.allocated then .ok (.unchanged asset player a.allocated)
        else (Allocation.propose g a p n).map (·.change) := by
  rw [answer, changeAllocation_eq]
  cases g.players.find? player with
  | none => rfl
  | some p =>
    cases g.assets.find? asset with
    | none => rfl
    | some a =>
      dsimp only
      cases Allocation.check a p n with
      | error e => rfl
      | ok _ =>
        simp only [bind, Except.bind]
        by_cases hn : n = a.allocated
        · rw [if_pos hn, if_pos hn]
          rfl
        rw [if_neg hn, if_neg hn]
        cases hd : Allocation.propose g a p n with
        | error e => rfl
        | ok d => exact (Allocation.propose_sound hn hd).commit

theorem answer_eq_ok {g : Game} {asset : AssetId} {player : PlayerId} {n : Count} {c : Change} :
    g.answer asset player n = .ok c ↔
      ∃ m, g.changeAllocation asset player n = .ok m ∧ m.result = c := map_eq_ok

theorem answer_planned {g : Game} {a : Asset} {p : Player} (ha : a ∈ g.assets.toList)
    (hp : p ∈ g.players.toList) {n : Count} {c : Change} (h : g.answer a.id p.id n = .ok c) :
    Allocation.Planned g a p n c := by
  have hfp : g.players.find? p.id = some p := Roll.find?_of_mem hp
  have hfa : g.assets.find? a.id = some a := Roll.find?_of_mem ha
  rw [answer_eq, hfp, hfa] at h
  obtain ⟨_, _, h⟩ := bind_eq_ok.mp h
  split at h
  · rename_i hn
    obtain rfl := Except.ok.inj h
    exact .unchanged hn
  · rename_i hn
    obtain ⟨d, hd, rfl⟩ := map_eq_ok.mp h
    exact Allocation.propose_planned hn hd

theorem changeAllocation_of_mem {g : Game} {a : Asset} {p : Player} (ha : a ∈ g.assets.toList)
    (hp : p ∈ g.players.toList) {n : Count} {m : Move Change}
    (h : g.changeAllocation a.id p.id n = .ok m) :
    m.result.current = n ∧ Allocation.Planned g a p n m.result ∧ Allocation.Carried g a p m := by
  obtain ⟨p', a', hp', ha', _, _, _, hcurrent, hc⟩ := changeAllocation_eq_ok h
  obtain rfl : p = p' := Roll.eq_of_key hp (Roll.mem_of_find? hp') (Roll.key_of_find? hp').symm
  obtain rfl : a = a' := Roll.eq_of_key ha (Roll.mem_of_find? ha') (Roll.key_of_find? ha').symm
  exact ⟨hcurrent, answer_planned ha hp (answer_eq_ok.mpr ⟨m, h, rfl⟩), hc⟩

end Game
end Watershed
