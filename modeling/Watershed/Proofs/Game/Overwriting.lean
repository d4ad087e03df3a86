import Watershed.Game.Steps
import Watershed.Proofs.Distribution.Overwriting
import Watershed.Proofs.Game.Mirror

namespace Watershed

namespace Distributor

theorem distribute_again {b : Board} {d : Distributor} {water : Count} {r : Distribution}
    (h : d.distribute b water = .ok r) (f : PlayerId → Count) (water' : Count) :
    d.distribute ⟨b.players.map (fun p => { p with water := f p.id }) fun _ => rfl, r.parcels⟩ water' =
      d.distribute b water' := by
  obtain ⟨w, hw⟩ := parcels_of_distribute h
  rw [hw]
  cases d with
  | playerOnly =>
    -- it answers the parcels that it finds, and has left them as they were
    have hsame : b.parcels = rewater w b.parcels := by
      rw [playerOnly_ok (Distribution.PlayerOnly.distribute?_eq b water)] at h
      rw [← hw, ← Except.ok.inj h]
    have hagain := Distribution.PlayerOnly.distribute?_flooded b f w water'
    rw [← hsame, Distribution.PlayerOnly.distribute?_eq b] at hagain
    rw [playerOnly_ok (Distribution.PlayerOnly.distribute?_eq b water')]
    exact playerOnly_ok hagain
  | _ => exact distribute_flooded rfl b f w water'

end Distributor

namespace Ledger

def netRain (es : List Entry) (id : ParcelId) : Int :=
  received (es.filter (·.kind = .rainfall)) (.parcel id) -
    given (es.filter (·.kind = .evaporate)) (.parcel id)

theorem netRain_append (es es' : List Entry) (id : ParcelId) :
    netRain (es ++ es') id = netRain es id + netRain es' id := by
  simp only [netRain, List.filter_append, received_append, given_append]
  omega

end Ledger

namespace Game

open Ledger

theorem received_settlements (g : Game) (r : Distribution) (id : ParcelId) :
    received ((g.settlements r).filter (·.kind = .rainfall)) (.parcel id) =
      received (g.settlements r) (.parcel id) := by
  refine sum_filter_of fun e he hk => if_neg ?_
  obtain ⟨q, _, he⟩ := List.mem_flatMap.mp he
  rcases settle_cases he with ⟨_, rfl⟩ | ⟨_, rfl⟩
  · exact absurd rfl (of_decide_eq_false hk)
  · simp [Entry.evaporate, Side.void, Side.parcel]

theorem given_settlements (g : Game) (r : Distribution) (id : ParcelId) :
    given ((g.settlements r).filter (·.kind = .evaporate)) (.parcel id) =
      given (g.settlements r) (.parcel id) := by
  refine sum_filter_of fun e he hk => if_neg ?_
  obtain ⟨q, _, he⟩ := List.mem_flatMap.mp he
  rcases settle_cases he with ⟨_, rfl⟩ | ⟨_, rfl⟩
  · simp [Entry.rainfall, Side.world, Side.parcel]
  · exact absurd rfl (of_decide_eq_false hk)

theorem distribute_netRain {g : Game} {d : Distributor} {water : Count} {m : Move Downpour}
    (h : g.distribute d water = .ok m) :
    ∃ es, m.game.ledger = g.ledger.appendAll es ∧
      ∀ id, netRain es id = ((m.game.waterOn id).val : Int) - (g.waterOn id).val := by
  obtain ⟨r, hr⟩ := distribute_entered h
  refine ⟨_, hr.ledger, fun id => ?_⟩
  have hsides := hr.sides (.parcel id) rfl
  rw [holding_parcel, holding_parcel] at hsides
  rw [netRain, received_settlements, given_settlements]
  omega

structure Overwritten (g first second alone : Game) : Prop where
  players : second.players = alone.players
  parcels : second.parcels = alone.parcels
  assets : second.assets = alone.assets
  netRain : ∃ es₁ es₂ es, first.ledger = g.ledger.appendAll es₁ ∧
    second.ledger = first.ledger.appendAll es₂ ∧ alone.ledger = g.ledger.appendAll es ∧
    ∀ id, netRain (es₁ ++ es₂) id = netRain es id

theorem overwritten {g : Game} {d : Distributor} {water water' : Count} {m₁ m₂ m : Move Downpour}
    (h₁ : g.distribute d water = .ok m₁) (h₂ : m₁.game.distribute d water' = .ok m₂)
    (h : g.distribute d water' = .ok m) : Overwritten g m₁.game m₂.game m.game := by
  obtain ⟨es₁, hl₁, hn₁⟩ := distribute_netRain h₁
  obtain ⟨es₂, hl₂, hn₂⟩ := distribute_netRain h₂
  obtain ⟨es, hl, hn⟩ := distribute_netRain h
  obtain ⟨r₁, hr₁, _, hg₁⟩ := distribute_eq_ok h₁
  obtain ⟨r₂, hr₂, _, hg₂⟩ := distribute_eq_ok h₂
  obtain ⟨r, hr, _, hg⟩ := distribute_eq_ok h
  have hsame : r₂ = r := by
    rw [← hg₁] at hr₂
    exact Except.ok.inj (hr₂.symm.trans ((Distributor.distribute_again hr₁ r₁.shares.of water').trans hr))
  have hplayers : m₂.game.players = m.game.players := by
    rw [← hg₂, ← hg, ← hg₁, hsame]
    apply Roll.ext
    simp [Roll.map]
  have hparcels : m₂.game.parcels = m.game.parcels := by
    rw [← hg₂, ← hg, hsame]
  have hassets : m₂.game.assets = m.game.assets := by
    rw [← hg₂, ← hg, ← hg₁]
  refine ⟨hplayers, hparcels, hassets, es₁, es₂, es, hl₁, hl₂, hl, fun id => ?_⟩
  have hwater : m₂.game.waterOn id = m.game.waterOn id := by
    rw [waterOn, waterOn, hparcels]
  rw [netRain_append, hn₁, hn₂, hn, hwater]
  omega

theorem handOut_left_out {shares : Shares} {players : Roll Player} {p : Player}
    (hp : p ∈ players.toList) (h : shares.find? p.id = none) :
    { p with water := 0 } ∈ (handOut shares players).toList := by
  have hnone : shares.of p.id = 0 := by
    rw [Shares.of, h]
  exact List.mem_map.mpr ⟨p, hp, by rw [hnone]⟩

theorem distribution_overwrites (g : Game) {d : Distributor} (hd : d.Configured)
    (water water' : Count) :
    ∃ m₁ m₂ m r, g.distribute d water = .ok m₁ ∧ m₁.game.distribute d water' = .ok m₂ ∧
      g.distribute d water' = .ok m ∧ Overwritten g m₁.game m₂.game m.game ∧
      d.distribute g.toBoard water' = .ok r ∧ m.game.players = handOut r.shares g.players ∧
      ∀ shares : Shares, ∀ p ∈ g.players.toList, shares.find? p.id = none →
        { p with water := 0 } ∈ (handOut shares g.players).toList := by
  obtain ⟨m₁, h₁⟩ := exists_distribute hd g water
  obtain ⟨m₂, h₂⟩ := exists_distribute hd m₁.game water'
  obtain ⟨m, h⟩ := exists_distribute hd g water'
  obtain ⟨r, hr, _, hg⟩ := distribute_eq_ok h
  exact ⟨m₁, m₂, m, r, h₁, h₂, h, overwritten h₁ h₂ h, hr, by rw [← hg]; rfl,
    fun _ _ hp hnone => handOut_left_out hp hnone⟩

def soaked : Game := afterAll .empty (Sample.settling ++ Sample.milling)

theorem soaked_overwritten : 0 < soaked.waterOn Sample.meadow.id ∧
    (Distributor.tiered (some (.clamp 4))).Configured ∧
    ∃ m₁ m₂ m r, soaked.distribute (.tiered (some (.clamp 4))) (.clamp 3) = .ok m₁ ∧
      m₁.game.distribute (.tiered (some (.clamp 4))) (.clamp 7) = .ok m₂ ∧
      soaked.distribute (.tiered (some (.clamp 4))) (.clamp 7) = .ok m ∧
      Overwritten soaked m₁.game m₂.game m.game ∧
      (Distributor.tiered (some (.clamp 4))).distribute soaked.toBoard (.clamp 7) = .ok r ∧
      m.game.players = handOut r.shares soaked.players ∧
      ∀ shares : Shares, ∀ p ∈ soaked.players.toList, shares.find? p.id = none →
        { p with water := 0 } ∈ (handOut shares soaked.players).toList := by
  have hd : (Distributor.tiered (some (.clamp 4))).Configured := rfl
  exact ⟨by decide +kernel, hd, distribution_overwrites soaked hd (.clamp 3) (.clamp 7)⟩

end Game
end Watershed
