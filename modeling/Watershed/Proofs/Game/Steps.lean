import Watershed.Game.Steps
import Watershed.Proofs.Allocation.Answer
import Watershed.Proofs.Game.Dealing
import Watershed.Proofs.Game.Turnover
import Watershed.Proofs.Steps

namespace Watershed

def Scene.moved {ε α : Type} (s : Scene) : Except ε (Move α) → EStateM.Result ε Scene α
  | .ok m => .ok m.result ⟨m.game, s.notices ++ m.notices⟩
  | .error e => .error e s

@[simp] theorem Scene.moved_still {ε α : Type} (s : Scene) (a : α) :
    s.moved (.ok ⟨s.game, [], a⟩ : Except ε (Move α)) = .ok a s := by
  rw [moved, List.append_nil]

namespace Game

open Scene

theorem run_recordStep {e : Entry} (h : e.WellFormed) (s : Scene) :
    (recordStep e).run s =
      .ok () { s with game := { s.game with ledger := s.game.ledger.appendAll [e] } } := by
  have hr : s.game.ledger.record e.toDraft = .ok (e, s.game.ledger.appendAll [e]) :=
    Ledger.record_toDraft.mpr ⟨h, rfl⟩
  simp only [recordStep, look, write, EStateM.run_bind, EStateM.run_get, EStateM.run_pure, hr]
  rfl

theorem run_recordSteps {es : List Entry} (h : ∀ e ∈ es, e.WellFormed) (s : Scene) :
    (es.forM recordStep).run s =
      .ok () { s with game := { s.game with ledger := s.game.ledger.appendAll es } } := by
  induction es generalizing s with
  | nil =>
    rw [Ledger.appendAll_nil]
    rfl
  | cons e es ih =>
    obtain ⟨he, hes⟩ := List.forall_mem_cons.mp h
    show (recordStep e >>= fun _ => es.forM recordStep).run s = _
    rw [run_bind_ok (run_recordStep he s), ih hes, Ledger.appendAll_appendAll]
    rfl

theorem mapM_toEntry {ε : Type} {fault : LedgerFault → ε} {es : List Entry}
    (h : ∀ e ∈ es, e.WellFormed) :
    es.mapM (fun e => e.toDraft.toEntry.mapError fault) = .ok es := by
  induction es with
  | nil => rfl
  | cons e es ih =>
    obtain ⟨he, hes⟩ := List.forall_mem_cons.mp h
    rw [List.mapM_cons, Entry.toEntry_toDraft.mpr ⟨he, rfl⟩, ih hes]
    rfl

theorem run_resetSteps (s : Scene) :
    resetSteps.run s = s.moved s.game.reset := by
  have hl : s.game.recordAll s.game.resetEntries =
      .ok (s.game.ledger.appendAll s.game.resetEntries) :=
    recordAll_eq_ok.mpr ⟨wellFormed_resetEntries s.game, rfl⟩
  simp only [resetSteps, look, write, announce, EStateM.run_bind, EStateM.run_get, EStateM.run_pure,
    EStateM.run_modify, run_ofExcept, mapM_toEntry (wellFormed_resetEntries s.game), reset, hl]
  rfl

theorem run_distributeSteps (d : Distributor) (water : Count) (s : Scene) :
    (distributeSteps d water).run s = s.moved (s.game.distribute d water) := by
  cases hd : d.distribute s.game.toBoard water with
  | error f =>
    simp only [distributeSteps, look, EStateM.run_bind, EStateM.run_get, EStateM.run_pure,
      run_ofExcept, distribute, hd]
    rfl
  | ok r =>
    -- the entries are drawn up from the parcels as they were, and recorded on the watered ones
    have hw := wellFormed_settlements s.game r
    have hl : s.game.recordAll (s.game.settlements r) =
        .ok (s.game.ledger.appendAll (s.game.settlements r)) := recordAll_eq_ok.mpr ⟨hw, rfl⟩
    simp only [distributeSteps, look, write, announce, EStateM.run_bind, EStateM.run_get,
      EStateM.run_pure, EStateM.run_modify, EStateM.run_adaptExcept, run_ofExcept, hd,
      Except.mapError, run_recordSteps hw, List.append_assoc, distribute]
    simp only [hl, bind, Except.bind]
    rfl

theorem run_changeSteps (asset : AssetId) (player : PlayerId) (n : Count) (s : Scene) :
    (changeSteps asset player n).run s = s.moved (s.game.changeAllocation asset player n) := by
  rw [changeAllocation_eq]
  simp only [changeSteps, look, EStateM.run_bind, EStateM.run_get, EStateM.run_pure]
  cases s.game.players.find? player with
  | none => rfl
  | some p =>
    cases s.game.assets.find? asset with
    | none => rfl
    | some a =>
      simp only [EStateM.run_bind, run_ofExcept]
      cases Allocation.check a p n with
      | error e => rfl
      | ok _ =>
        by_cases hn : n = a.allocated
        · simp [hn]
        have hpropose : (if a.allocated < n then Allocation.increase s.game a p n
          else Allocation.decrease s.game a p n) = Allocation.propose s.game a p n := rfl
        simp only [hn, if_false, EStateM.run_bind, run_ofExcept, hpropose, ok_bind]
        cases hd : Allocation.propose s.game a p n with
        | error e => rfl
        | ok d =>
          have hsound := Allocation.propose_sound hn hd
          have hw : ∀ e ∈ d.entries, e.WellFormed := by
            rw [hsound.entries]
            exact hsound.change.wellFormed s.game.round
          have hl : s.game.ledger.recordAll d.entries = .ok (s.game.ledger.appendAll d.entries) :=
            Ledger.recordAll_eq_ok.mpr ⟨hw, rfl⟩
          simp only [mapM_toEntry hw, write, announce, EStateM.run_modify, EStateM.run_pure,
            Allocation.commit, hl, ok_bind]
          rfl

theorem run_putPlayers (players : List Player) (s : Scene) :
    (players.forM fun p => write fun g => { g with players := g.players.put p }).run s =
      (.ok () { s with game := { s.game with players := players.foldl Roll.put s.game.players } } :
        EStateM.Result GameFault Scene Unit) := by
  induction players generalizing s with
  | nil => rfl
  | cons p players ih =>
    rw [List.forM_eq_forM, List.forM_cons, EStateM.run_bind]
    exact ih _

theorem run_transferSteps (id : ParcelId) (taker : Option PlayerId) (s : Scene) :
    (transferSteps id taker).run s = s.moved (s.game.transferWater id taker) := by
  simp only [transferSteps, transferWater, look, EStateM.run_bind, EStateM.run_get,
    EStateM.run_pure, run_ofExcept]
  cases s.game.findParcel id with
  | error e => rfl
  | ok q =>
    by_cases ho : q.waterOwner = taker
    · simp [ho]
    simp only [ho, if_false, EStateM.run_bind, run_ofExcept, ok_bind]
    cases eachOf (s.game.withoutRights · q) q.waterOwner with
    | error e => rfl
    | ok sellers =>
      cases eachOf (s.game.withRights · q) taker with
      | error e => rfl
      | ok buyers =>
        simp only [run_putPlayers, ok_bind]
        rfl

theorem run_developmentSteps (id : ParcelId) (taker : Option PlayerId) (s : Scene) :
    (developmentSteps id taker).run s = s.moved (s.game.transferDevelopment id taker) := by
  simp only [developmentSteps, transferDevelopment, look, EStateM.run_bind, EStateM.run_get,
    EStateM.run_pure, run_ofExcept]
  cases eachOf s.game.findPlayer taker with
  | error e => rfl
  | ok _ =>
    rw [ok_bind]
    cases s.game.findParcel id with
    | error e => rfl
    | ok q =>
      by_cases hd : q.developer = taker
      · simp [hd]
      · simp only [hd, if_false, ok_bind]
        rfl

theorem checkPayment_eq (g : Game) (x : PlayerId × Decimal) :
    g.checkPayment x = (g.credit x.1 x.2).map fun _ => () := by
  unfold checkPayment credit
  cases g.findPlayer x.1 with
  | error e => rfl
  | ok p =>
    simp only [bind, Except.bind]
    cases p.money.add? x.2 <;> rfl

theorem checkPayment_credit {g g' : Game} {x y : PlayerId × Decimal}
    (h : g.credit x.1 x.2 = .ok g') (hne : key x ≠ key y) : g'.checkPayment y = g.checkPayment y := by
  obtain ⟨p, hp, h⟩ := bind_eq_ok.mp h
  obtain ⟨_, hid⟩ := findPlayer_eq_ok.mp hp
  split at h
  · cases h
  obtain rfl := Except.ok.inj h
  have hne : ∀ money, key { p with money := money } ≠ y.1 := fun _ he => hne (hid.symm.trans he)
  simp only [checkPayment, findPlayer, Roll.find?_put_of_ne (hne _)]

theorem checkPayments_eq {l : List (PlayerId × Decimal)} (hn : (l.map key).Nodup) (g : Game) :
    l.forM g.checkPayment = (l.foldlM (fun (g : Game) x => g.credit x.1 x.2) g).map fun _ => () := by
  -- paying one player leaves alone whether those after it can be paid
  induction l generalizing g with
  | nil => rfl
  | cons x l ih =>
    obtain ⟨hx, hl⟩ := List.nodup_cons.mp hn
    show (g.checkPayment x >>= fun _ => l.forM g.checkPayment) = _
    rw [checkPayment_eq, List.foldlM_cons]
    cases hg : g.credit x.1 x.2 with
    | error e => rfl
    | ok g' =>
      have hsame : l.forM g'.checkPayment = l.forM g.checkPayment := forM_congr fun y hy =>
        checkPayment_credit hg fun he => hx (he ▸ List.mem_map_of_mem hy)
      exact hsame.symm.trans (ih hl g')

theorem run_creditSteps {l : List (PlayerId × Decimal)} {s : Scene} {g : Game}
    (h : l.foldlM (fun (g : Game) x => g.credit x.1 x.2) s.game = .ok g) :
    (l.forM creditStep).run s = .ok () { s with game := g } := by
  induction l generalizing s with
  | nil =>
    obtain rfl := Except.ok.inj h
    rfl
  | cons x l ih =>
    obtain ⟨g', hg, h⟩ := bind_eq_ok.mp (List.foldlM_cons.symm.trans h)
    have hx : (creditStep x).run s = .ok () { s with game := g' } := by
      simp only [creditStep, look, write, EStateM.run_bind, EStateM.run_get, EStateM.run_pure,
        EStateM.run_modify, run_ofExcept, hg]
    show (creditStep x >>= fun _ => l.forM creditStep).run s = _
    rw [run_bind_ok hx]
    exact ih h

theorem credits_eq_ok {l : List (PlayerId × Decimal)} {g g' : Game}
    (h : l.foldlM (fun (g : Game) x => g.credit x.1 x.2) g = .ok g') :
    ∃ players, g' = { g with players := players } := by
  induction l generalizing g with
  | nil =>
    obtain rfl := Except.ok.inj h
    exact ⟨g.players, rfl⟩
  | cons x l ih =>
    obtain ⟨g₁, hg, h⟩ := bind_eq_ok.mp (List.foldlM_cons.symm.trans h)
    obtain ⟨p, _, money, rfl⟩ := credit_eq_ok hg
    obtain ⟨players, rfl⟩ := ih h
    exact ⟨players, rfl⟩

end Game
end Watershed
