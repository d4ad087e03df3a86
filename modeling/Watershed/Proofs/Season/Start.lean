import Watershed.Proofs.Game.Books
import Watershed.Proofs.Game.Spendable
import Watershed.Season.Basic

namespace Watershed

def Act.Founds (g : Game) (a : Act) : Prop := ∃ d, a = .deal d ∧ a.Dry g

theorem Game.Run.of_deal {admits : Game → Act → Prop} {g g' : Game} {d : Dealing}
    (h : g.deal? d = some g') (ha : admits g (.deal d)) : Game.Run admits g g' :=
  .single ⟨.deal d, ha, (Game.after_eq (a := .deal d) h).symm⟩

namespace Founding

theorem foldlM_run {α : Type} {f : Founding → α → Except ScenarioFault Founding}
    (hf : ∀ s a s', f s a = .ok s' → Game.Run Act.Founds s.game s'.game) {l : List α}
    {s s' : Founding} (h : l.foldlM f s = .ok s') : Game.Run Act.Founds s.game s'.game := by
  induction l generalizing s with
  | nil =>
    obtain rfl := Except.ok.inj h
    exact .refl
  | cons a l ih =>
    obtain ⟨s₁, hs, h⟩ := bind_eq_ok.mp (List.foldlM_cons.symm.trans h)
    exact (hf s a s₁ hs).trans (ih h)

theorem enterPlayer_run {fresh : Nat → Uuid} {f f' : Founding} {name : String}
    (h : enterPlayer fresh f name = .ok f') : Game.Run Act.Founds f.game f'.game := by
  unfold enterPlayer at h
  split at h
  · cases h
  obtain ⟨g, hg, h⟩ := bind_eq_ok.mp h
  obtain rfl := Except.ok.inj h
  exact .of_deal (d := .addPlayer _) (toOption_eq_some.mpr (mapError_eq_ok.mp hg))
    ⟨_, rfl, rfl, rfl, rfl⟩

theorem enterParcel_run {fresh : Nat → Uuid} {e : Option Entitlements} {f f' : Founding}
    {p : ParcelSpec} (h : enterParcel fresh e f p = .ok f') :
    Game.Run Act.Founds f.game f'.game := by
  unfold enterParcel at h
  split at h
  · cases h
  obtain ⟨_, _, h⟩ := bind_eq_ok.mp h
  obtain ⟨_, _, h⟩ := bind_eq_ok.mp h
  obtain ⟨g, hg, h⟩ := bind_eq_ok.mp h
  obtain rfl := Except.ok.inj h
  exact .of_deal (d := .addParcel _) (toOption_eq_some.mpr (mapError_eq_ok.mp hg)) ⟨_, rfl, rfl⟩

theorem enterAsset_run {fresh : Nat → Uuid} {f f' : Founding} {a : AssetSpec}
    (h : enterAsset fresh f a = .ok f') : Game.Run Act.Founds f.game f'.game := by
  unfold enterAsset at h
  split at h
  · cases h
  obtain ⟨_, _, h⟩ := bind_eq_ok.mp h
  obtain ⟨_, _, h⟩ := bind_eq_ok.mp h
  obtain ⟨g, hg, h⟩ := bind_eq_ok.mp h
  obtain rfl := Except.ok.inj h
  exact .of_deal (d := .build _ _ _ _) (toOption_eq_some.mpr (mapError_eq_ok.mp hg))
    ⟨_, rfl, trivial⟩

end Founding

theorem Scenario.found_run {fresh : Nat → Uuid} {s : Scenario} {water : WaterSettings}
    {f : Founding} (h : s.found fresh water = .ok f) :
    Game.Run Act.Founds .empty f.game := by
  obtain ⟨f₁, hplayers, h⟩ := bind_eq_ok.mp h
  obtain ⟨e, _, h⟩ := bind_eq_ok.mp h
  obtain ⟨f₂, hparcels, hassets⟩ := bind_eq_ok.mp h
  have h₁ : Game.Run Act.Founds .empty f₁.game :=
    Founding.foldlM_run (fun _ _ _ => Founding.enterPlayer_run) hplayers
  have h₂ := Founding.foldlM_run (fun _ _ _ => Founding.enterParcel_run) hparcels
  have h₃ := Founding.foldlM_run (fun _ _ _ => Founding.enterAsset_run) hassets
  exact (h₁.trans h₂).trans h₃

theorem founded_frame {g : Game} (h : Game.Run Act.Founds .empty g) :
    g.round = 0 ∧ g.ledger = .empty := by
  refine h.invariant (P := fun g => g.round = 0 ∧ g.ledger = .empty) (fun g₁ a ha hf => ?_)
    ⟨rfl, rfl⟩
  obtain ⟨d, rfl, _⟩ := ha
  refine Game.after_of (P := fun g => g.round = 0 ∧ g.ledger = .empty) hf fun g₂ hg => ?_
  obtain ⟨hround, hledger, _⟩ := Game.deal_frame hg
  exact ⟨hround.trans hf.1, hledger.trans hf.2⟩

theorem Strategies.ofKinds_writesParcels {kinds : StrategyKinds} {water : WaterSettings}
    {economy : EconomySettings} {seed : Count} {s : Strategies}
    (h : Strategies.ofKinds kinds water economy seed = .ok s) : s.distributor.writesParcels = true := by
  obtain ⟨_, _, h⟩ := bind_eq_ok.mp h
  obtain ⟨_, _, h⟩ := bind_eq_ok.mp h
  obtain ⟨_, _, h⟩ := bind_eq_ok.mp h
  obtain ⟨_, hc, h⟩ := bind_eq_ok.mp h
  obtain rfl := Except.ok.inj h
  unfold checkCompatible at hc
  split at hc
  · rename_i hw
    exact hw
  · cases hc

namespace Season

theorem start_eq_ok {strategies : Strategies} {g : Game} {n : Count} {s : Season}
    (h : start strategies g n = .ok s) :
    s = ⟨⟨0, .revenue, n⟩, g, strategies, false, .neutral, 0, ⟨0, 0, 0⟩⟩ := by
  obtain ⟨clock, hc, h⟩ := bind_eq_ok.mp h
  have hc := mapError_eq_ok.mp hc
  unfold Clock.start at hc
  split at hc
  · cases hc
  obtain rfl := Except.ok.inj hc
  exact (Except.ok.inj h).symm

theorem ofConfig_eq_ok {fresh : Nat → Uuid} {c : Config} {s : Season} {f : Founding}
    (h : ofConfig fresh c = .ok (s, f)) :
    s.strategies.distributor.writesParcels = true ∧ Game.Run Act.Founds .empty s.game ∧
      start s.strategies s.game c.game.maxRounds = .ok s := by
  obtain ⟨strategies, hk, h⟩ := bind_eq_ok.mp h
  obtain ⟨founding, hf, h⟩ := bind_eq_ok.mp h
  obtain ⟨season, hs, h⟩ := bind_eq_ok.mp h
  cases h
  have hk := Strategies.ofKinds_writesParcels (mapError_eq_ok.mp hk)
  have hf := Scenario.found_run (mapError_eq_ok.mp hf)
  have he := start_eq_ok hs
  rw [he] at hs ⊢
  exact ⟨hk, hf, hs⟩

end Season
end Watershed
