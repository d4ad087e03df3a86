import Watershed.Proofs.Game.Steps
import Watershed.Proofs.Game.Volume

namespace Watershed

structure Change.Exact (g : Game) (a : Asset) (p : Player) (n : Count) (c : Change) (g' : Game) :
    Prop where
  asset : c.asset = a.id
  player : c.player = p.id
  previous : c.previous = a.allocated
  current : c.current = n
  raised : a.allocated.val ≤ n.val →
    n.val - a.allocated.val = c.totalDrawn.val ∧ c.returned = [] ∧ c.lost = 0
  lowered : n.val ≤ a.allocated.val →
    a.allocated.val - n.val = c.totalReturned.val + c.lost.val ∧ c.drawn = []
  totals : c.totalDrawn.val = c.drawnSum ∧ c.totalReturned.val = c.returnedSum
  drawnOnce : (c.drawn.map (·.1)).Nodup
  returnedOnce : (c.returned.map (·.1)).Nodup
  lostOnly : c.lost ≠ 0 → c.returned = [] ∧
    ∀ q ∈ g.parcels.toList, q.id ∈ p.rights.toList → q.waterOwner ≠ some p.id
  round : g'.round = g.round
  assets : g'.assets = g.assets.put { a with allocated := n }
  players : ∃ water : Count, g'.players = g.players.put { p with water := water } ∧
    water.val + c.totalDrawn.val = p.water.val + c.totalReturned.val
  parcels : ∃ water : ParcelId → Count, g'.parcels = rewater water g.parcels ∧
    ∀ q ∈ g.parcels.toList,
      (water q.id).val + amountAt c.drawn q.id = q.water.val + amountAt c.returned q.id
  ledger : g'.ledger.entries = g.ledger.entries ++
    (c.drawn.map (fun x => Entry.allocate g.round x.2 x.1 a.id p.id) ++
      (c.returned.map (fun x => Entry.giveBack g.round x.2 a.id x.1 p.id) ++
        if c.lost = 0 then [] else [Entry.forfeit g.round c.lost a.id p.id]))
  held : g'.held + c.lost.val = g.held

namespace Allocation

variable {g : Game} {a : Asset} {p : Player} {n : Count} {c : Change}

theorem Planned.raised_only (h : Planned g a p n c) (hn : a.allocated.val ≤ n.val) :
    c.returned = [] ∧ c.lost = 0 := by
  cases h with
  | unchanged => exact ⟨rfl, rfl⟩
  | raised => exact ⟨rfl, rfl⟩
  | lowered targets h => omega
  | lost h => omega

theorem Planned.lowered_only (h : Planned g a p n c) (hn : n.val ≤ a.allocated.val) :
    c.drawn = [] := by
  cases h with
  | unchanged => rfl
  | raised drawn h => omega
  | lowered => rfl
  | lost => rfl

theorem Planned.lost_only (h : Planned g a p n c) (hl : c.lost ≠ 0) : c.returned = [] := by
  cases h with
  | unchanged => rfl
  | raised => rfl
  | lowered => exact absurd rfl hl
  | lost => rfl

end Allocation

namespace Game

open Allocation

theorem Carried.sizes {g : Game} {a : Asset} {p : Player} {m : Move Change}
    (h : Allocation.Carried g a p m) (ha : a ∈ g.assets.toList) :
    m.game.parcels.size = g.parcels.size ∧ m.game.assets.size = g.assets.size := by
  obtain ⟨water, hparcels, _⟩ := h.parcels
  rw [hparcels, h.assets]
  exact ⟨List.length_map _, Roll.size_put_of_mem ha rfl⟩

theorem changeAllocation_exact {g : Game} {asset : AssetId} {player : PlayerId} {n : Count}
    {m : Move Change} (hsize : g.parcels.size + g.assets.size < 2 ^ 63)
    (h : g.changeAllocation asset player n = .ok m) :
    ∃ a ∈ g.assets.toList, ∃ p ∈ g.players.toList, a.id = asset ∧ p.id = player ∧
      m.result.Exact g a p n m.game := by
  have hvolume := (change_entered h).volume
  obtain ⟨p, a, hp, ha, _⟩ := changeAllocation_eq_ok h
  obtain rfl : p.id = player := Roll.key_of_find? hp
  obtain rfl : a.id = asset := Roll.key_of_find? ha
  have hp := Roll.mem_of_find? hp
  have ha := Roll.mem_of_find? ha
  obtain ⟨hcurrent, hplanned, hc⟩ := changeAllocation_of_mem ha hp h
  have hmoved := hc.sound.moved
  obtain ⟨hdrawn, hreturned⟩ := hplanned.totals
  obtain ⟨hparcels, hassets⟩ := Carried.sizes hc ha
  rw [drained_change, rained_change] at hvolume
  rw [hcurrent] at hmoved
  refine ⟨a, ha, p, hp, rfl, rfl, hc.sound.asset, hc.sound.player, hc.sound.previous, hcurrent,
    fun hn => ?_, fun hn => ?_, ⟨hdrawn, hreturned⟩, hc.sound.drawnNodup, hc.sound.returnedNodup,
    fun hl => ⟨hplanned.lost_only hl, fun q hq hid ho => hc.sound.lostOnly hl q ⟨hq, ho, hid⟩⟩,
    hc.round, hcurrent ▸ hc.assets, ?_, hc.parcels, ?_, ?_⟩
  · obtain ⟨hnone, hlost⟩ := hplanned.raised_only hn
    refine ⟨?_, hnone, hlost⟩
    rw [Change.returnedSum, hnone, hlost] at hmoved
    simp only [List.map_nil, Count.total, Count.val_zero] at hmoved
    omega
  · have hnone := hplanned.lowered_only hn
    refine ⟨?_, hnone⟩
    rw [Change.drawnSum, hnone] at hmoved
    simp only [List.map_nil, Count.total] at hmoved
    omega
  · rw [hdrawn, hreturned]
    exact hc.players
  · rw [hc.ledger, Ledger.entries_appendAll, Change.entries, hc.sound.asset, hc.sound.player]
  · rw [held_eq_volume hsize, held_eq_volume (by omega)]
    exact hvolume

theorem change_exact (s : Scene) (asset : AssetId) (player : PlayerId) (n : Count)
    (hsize : s.game.players.size + s.game.parcels.size + s.game.assets.size < 2 ^ 63) :
    match (changeSteps asset player n).run s with
    | .error e t => s.game.changeAllocation asset player n = .error e ∧ t = s
    | .ok c t =>
      (∃ m, s.game.changeAllocation asset player n = .ok m ∧ c = m.result ∧
        t = ⟨m.game, s.notices ++ m.notices⟩) ∧
      ∃ a ∈ s.game.assets.toList, ∃ p ∈ s.game.players.toList, a.id = asset ∧ p.id = player ∧
        c.Exact s.game a p n t.game := by
  rw [run_changeSteps]
  cases h : s.game.changeAllocation asset player n with
  | error e => exact ⟨rfl, rfl⟩
  | ok m => exact ⟨⟨m, rfl, rfl, rfl⟩, changeAllocation_exact (by omega) h⟩

open Sample in
def rainyMill : Game := afterAll .empty (settling ++ [.setRound 1, .reset, .distribute .fair (.clamp 12)])

open Sample in
theorem marsh_drawn_exactly : ∃ c t,
    (changeSteps mill miller.id (.clamp 3)).run ⟨rainyMill, []⟩ = .ok c t ∧
      c.drawn = [(marsh.id, .clamp 3)] ∧ t.game.held = rainyMill.held := by
  have hrun : (match (changeSteps mill miller.id (.clamp 3)).run ⟨rainyMill, []⟩ with
    | .ok c _ => some (c.drawn, c.lost)
    | .error _ _ => none) = some ([(marsh.id, .clamp 3)], 0) := by decide +kernel
  have hexact := change_exact ⟨rainyMill, []⟩ mill miller.id (.clamp 3) (by decide +kernel)
  cases h : (changeSteps mill miller.id (.clamp 3)).run ⟨rainyMill, []⟩ with
  | error e t =>
    rw [h] at hrun
    cases hrun
  | ok c t =>
    rw [h] at hrun hexact
    obtain ⟨hdrawn, hlost⟩ := Prod.mk.inj (Option.some.inj hrun)
    obtain ⟨_, _, _, _, _, _, _, hc⟩ := hexact
    have hheld := hc.held
    rw [hlost] at hheld
    exact ⟨c, t, rfl, hdrawn, hheld⟩

end Game
end Watershed
