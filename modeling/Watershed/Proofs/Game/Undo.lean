import Watershed.Proofs.Game.Criterion
import Watershed.Proofs.Game.Exact

namespace Watershed

namespace Allocation

theorem giveBack_home {owned : Plan} {home : ParcelId} (h : owned.contains home = true)
    (k : Count) : giveBack owned home k = [(home, k)] := by
  have hsize : owned.size ≠ 0 := by
    obtain ⟨x, hx, _⟩ := Roll.contains_iff.mp h
    exact Nat.ne_of_gt (List.length_pos_of_mem hx)
  rw [giveBack, if_neg hsize, if_pos h]

theorem draw_home {pool : Plan} {home : ParcelId} {required : Count} (hpos : 0 < required.val)
    (h : required.val ≤ (pool.on home).val) : draw pool home required = .ok [(home, required)] := by
  have htaken : min (pool.on home) required = required := by
    apply Count.ext
    rw [Count.val_min]
    omega
  have hne : required ≠ 0 := fun e => by simp [e] at hpos
  have hrest : required.subDownTo required = 0 := by
    apply Count.ext
    simp
  simp only [draw, htaken, if_neg hne, hrest]
  rw [drawRichest, if_pos rfl]
  rfl

theorem eq_single {home : ParcelId} {l : List (ParcelId × Count)} {k : Count}
    (hn : (l.map (·.1)).Nodup) (hhome : ∀ x ∈ l, x.1 = home) (hpos : 0 < k.val)
    (htotal : Count.total (l.map (·.2)) = k.val) : l = [(home, k)] := by
  match l with
  | [] =>
    simp only [List.map_nil, Count.total] at htotal
    omega
  | [x] =>
    have hid : x.1 = home := hhome x List.mem_cons_self
    have hk : x.2 = k := by
      apply Count.ext
      simpa [Count.total] using htotal
    rw [← hid, ← hk]
  | x :: y :: rest =>
    have hx := hhome x (by simp)
    have hy := hhome y (by simp)
    simp [hx, hy] at hn

variable {g : Game} {a : Asset} {p : Player} {n : Count} {c : Change} {q : Parcel}

theorem Planned.returned_home (h : Planned g a p n c) (hq : Owns g p q) (hid : q.id = a.parcel)
    (hn : n.val < a.allocated.val) : c.returned = [(a.parcel, a.allocated.subDownTo n)] := by
  have hhome := giveBack_home (contains_ownedWater.mpr ⟨q, hq, hid⟩) (a.allocated.subDownTo n)
  cases h with
  | unchanged h => exact absurd (congrArg Count.val h) (Nat.ne_of_lt hn)
  | raised drawn h => omega
  | lowered targets h hne ht => exact ht.symm.trans hhome
  | lost h ht =>
    rw [hhome] at ht
    cases ht

theorem Planned.drawn_home (h : Planned g a p n c) (hq : Owns g p q) (hid : q.id = a.parcel)
    (hn : a.allocated.val < n.val) (hle : n.val - a.allocated.val ≤ q.water.val) :
    c.drawn = [(a.parcel, n.subDownTo a.allocated)] := by
  cases h with
  | unchanged h => exact absurd (congrArg Count.val h).symm (Nat.ne_of_lt hn)
  | raised drawn h hd =>
    rw [draw_home] at hd
    · exact (Except.ok.inj hd).symm
    · rw [Count.val_subDownTo]
      omega
    · rwa [← hid, hq.on_ownedWater, Count.val_subDownTo]
  | lowered targets h => omega
  | lost h => omega

theorem Planned.drawn_only (h : Planned g a p n c) (hn : a.allocated.val < n.val)
    (hhome : ∀ x ∈ c.drawn, x.1 = a.parcel) : c.drawn = [(a.parcel, n.subDownTo a.allocated)] := by
  cases h with
  | unchanged h => exact absurd (congrArg Count.val h).symm (Nat.ne_of_lt hn)
  | raised drawn h hd =>
    have hs := draw_eq_ok hd
    refine eq_single hs.nodup hhome ?_ hs.total
    rw [Count.val_subDownTo]
    omega
  | lowered targets h => omega
  | lost h => omega

end Allocation

namespace Game

open Allocation

structure TakenBack (g : Game) (a : Asset) (p : Player) (n water : Count) (m m' : Move Change) :
    Prop where
  carried : Carried g a p m
  current : m.result.current = n
  planned : Planned g a p n m.result
  lossless : m.result.lost = 0
  players : m.game.players = g.players.put { p with water := water }
  spent : water.val + m.result.drawnSum = p.water.val + m.result.returnedSum
  backCarried : Carried m.game { a with allocated := n } { p with water := water } m'
  backCurrent : m'.result.current = a.allocated
  backPlanned : Planned m.game { a with allocated := n } { p with water := water } a.allocated m'.result

variable {g : Game} {a : Asset} {p : Player} {n water : Count} {m m' : Move Change}

theorem owns_rewater {f : ParcelId → Count} (hf : m.game.parcels = rewater f g.parcels) {q : Parcel}
    (hq : Owns g p q) : Owns m.game { p with water := water } { q with water := f q.id } := by
  refine ⟨?_, hq.2.1, hq.2.2⟩
  rw [hf]
  exact List.mem_map_of_mem hq.1

theorem TakenBack.back_lossless (h : TakenBack g a p n water m m') : m'.result.lost = 0 := by
  by_contra hl
  have hmoved := h.carried.sound.moved
  rw [h.current, h.lossless] at hmoved
  have hlt : a.allocated.val < n.val := by
    by_contra hle
    exact hl (h.backPlanned.raised_only (Nat.not_lt.mp hle)).2
  -- the parcel that was drawn from is still the player's
  obtain ⟨x, hx⟩ : ∃ x, x ∈ m.result.drawn := by
    refine List.exists_mem_of_ne_nil _ fun hnil => ?_
    rw [Change.drawnSum, hnil] at hmoved
    simp only [List.map_nil, Count.total] at hmoved
    omega
  obtain ⟨q, hq, _⟩ := h.carried.sound.drawnOwn x hx
  obtain ⟨f, hf, _⟩ := h.carried.parcels
  exact h.backCarried.sound.lostOnly hl _ (owns_rewater hf hq)

theorem TakenBack.assets_eq (h : TakenBack g a p n water m m') (ha : a ∈ g.assets.toList) :
    m'.game.assets = g.assets := by
  rw [h.backCarried.assets, h.carried.assets, h.backCurrent, h.current]
  exact Roll.put_back (a := { a with allocated := n }) ha rfl

theorem TakenBack.players_eq (h : TakenBack g a p n water m m') (hp : p ∈ g.players.toList) :
    m'.game.players = g.players := by
  obtain ⟨water', hplayers, hspent⟩ := h.backCarried.players
  have hthere := h.carried.sound.moved
  have hback := h.backCarried.sound.moved
  rw [h.current, h.lossless] at hthere
  rw [h.backCurrent, h.back_lossless] at hback
  have hwater : water' = p.water := by
    apply Count.ext
    have hspent₁ := h.spent
    rw [Count.val_zero] at hthere hback
    dsimp only at hspent hback
    omega
  rw [hplayers, h.players, hwater]
  exact Roll.put_back (a := { p with water := water }) hp rfl

theorem TakenBack.parcels_eq (h : TakenBack g a p n water m m')
    (hdrawn : m'.result.drawn = m.result.returned) (hreturned : m'.result.returned = m.result.drawn) :
    m'.game.parcels = g.parcels := by
  obtain ⟨f, hf, hwater⟩ := h.carried.parcels
  obtain ⟨f', hf', hwater'⟩ := h.backCarried.parcels
  rw [hf', hf, rewater_rewater]
  apply rewater_self
  intro q hq
  have hthere := hwater q hq
  have hback := hwater' { q with water := f q.id } (by rw [hf]; exact List.mem_map_of_mem hq)
  apply Count.ext
  rw [hdrawn, hreturned] at hback
  dsimp only at hback
  omega

theorem TakenBack.lowered_home (h : TakenBack g a p n water m m') {q : Parcel} (hq : Owns g p q)
    (hid : q.id = a.parcel) (hn : n.val < a.allocated.val) : m'.game.parcels = g.parcels := by
  obtain ⟨f, hf, hwater⟩ := h.carried.parcels
  have hnone : m.result.drawn = [] := h.planned.lowered_only (Nat.le_of_lt hn)
  have hreturned := h.planned.returned_home hq hid hn
  -- what came back to the home parcel is enough to be drawn from it again
  have hhome := hwater q hq.1
  rw [hnone, hreturned, hid, amountAt_cons, if_pos rfl, Count.val_subDownTo] at hhome
  have hdrawn := h.backPlanned.drawn_home (owns_rewater hf hq) hid hn
    (by rw [hid]; dsimp only; omega)
  have hnone' := (h.backPlanned.raised_only (Nat.le_of_lt hn)).1
  exact h.parcels_eq (hdrawn.trans hreturned.symm) (hnone'.trans hnone.symm)

theorem TakenBack.raised_home (h : TakenBack g a p n water m m') {q : Parcel} (hq : Owns g p q)
    (hid : q.id = a.parcel) (hn : a.allocated.val < n.val)
    (hhome : ∀ x ∈ m.result.drawn, x.1 = a.parcel) : m'.game.parcels = g.parcels := by
  obtain ⟨f, hf, _⟩ := h.carried.parcels
  have hnone : m.result.returned = [] := (h.planned.raised_only (Nat.le_of_lt hn)).1
  have hdrawn := h.planned.drawn_only hn hhome
  have hreturned := h.backPlanned.returned_home (owns_rewater hf hq) hid hn
  have hnone' := h.backPlanned.lowered_only (Nat.le_of_lt hn)
  exact h.parcels_eq (hnone'.trans hnone.symm) (hreturned.trans hdrawn.symm)

theorem Spendable.take_back (hg : Spendable g) (hv : g.volume < 18446744073709551616)
    (ha : a ∈ g.assets.toList) (hp : p ∈ g.players.toList) (ho : a.owner = p.id)
    (h : g.changeAllocation a.id p.id n = .ok m) (hl : m.result.lost = 0) :
    ∃ water m', m.game.changeAllocation a.id p.id a.allocated = .ok m' ∧
      TakenBack g a p n water m m' := by
  -- the asset gave its water up to the player, who can spend it on the way back
  have hg' := change_spendable hg h
  obtain ⟨hcurrent, hplanned, hc⟩ := changeAllocation_of_mem ha hp h
  obtain ⟨water, hplayers, hspent⟩ := hc.players
  have ha' : { a with allocated := n } ∈ m.game.assets.toList := by
    rw [hc.assets, hcurrent]
    exact Roll.mem_put.mpr (Or.inl rfl)
  have hp' : { p with water := water } ∈ m.game.players.toList := by
    rw [hplayers]
    exact Roll.mem_put.mpr (Or.inl rfl)
  obtain ⟨husage, hdivisible⟩ := hg.fed a ha
  have hmoved := hc.sound.moved
  rw [hcurrent, hl, Count.val_zero] at hmoved
  have hgrantable : Grantable { a with allocated := n } { p with water := water } a.allocated := by
    refine ⟨husage, ?_, fun hlt => ?_⟩
    · cases hd : a.divisible with
      | true => exact Or.inl rfl
      | false => exact Or.inr (hdivisible hd)
    · have hnone : m.result.drawn = [] := hplanned.lowered_only (Nat.le_of_lt hlt)
      rw [Change.drawnSum, hnone] at hspent hmoved
      simp only [List.map_nil, Count.total] at hspent hmoved
      dsimp only
      omega
  have hverdict := hg'.answer_verdict ha' hp' (n := a.allocated) fun _ =>
    Nat.lt_of_le_of_lt (change_volume h) hv
  have hlegal : verdict { a with allocated := n } { p with water := water } a.allocated = .ok () :=
    verdict_eq_ok.mpr ⟨ho, hgrantable⟩
  rw [hlegal] at hverdict
  obtain ⟨c, hanswer, _⟩ := map_eq_ok.mp hverdict
  obtain ⟨m', hback, _⟩ := answer_eq_ok.mp hanswer
  obtain ⟨hcurrent', hplanned', hc'⟩ := changeAllocation_of_mem ha' hp' hback
  exact ⟨water, m', hback, hc, hcurrent, hplanned, hl, hplayers, hspent, hc', hcurrent', hplanned'⟩

end Game
end Watershed
