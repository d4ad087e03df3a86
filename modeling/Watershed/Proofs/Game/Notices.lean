import Watershed.Proofs.Distribution.Progress
import Watershed.Proofs.Game.Steps

namespace Watershed

namespace Roll

variable {α κ : Type} [Key κ] [Keyed α κ]

structure Covers (r r' : Roll α) (ks : List κ) : Prop where
  keys : r'.keys = r.keys
  nodup : ks.Nodup
  known : ∀ k ∈ ks, r.contains k = true
  heard : ∀ k, r'.find? k ≠ r.find? k → k ∈ ks

theorem covers_self (r : Roll α) : Covers r r [] :=
  ⟨rfl, List.nodup_nil, by simp, fun _ h => absurd rfl h⟩

theorem covers_map {f : α → α} {h : ∀ a, key (f a) = key a} {r : Roll α} {ks : List κ}
    (hn : ks.Nodup) (hk : ∀ k ∈ ks, r.contains k = true)
    (hf : ∀ a ∈ r.toList, key a ∉ ks → f a = a) : Covers r (r.map f h) ks := by
  refine ⟨keys_map, hn, hk, fun k hne => ?_⟩
  by_contra hout
  rw [find?_map] at hne
  cases hr : r.find? k with
  | none => exact hne (by rw [hr]; rfl)
  | some a =>
    obtain rfl := key_of_find? hr
    exact hne (by rw [hr, Option.map_some, hf a (mem_of_find? hr) hout])

theorem covers_filter {p : α → Bool} {f : α → α} (h : ∀ a, key (f a) = key a) {r : Roll α}
    (hp : ∀ a ∈ r.toList, p a = true ↔ f a ≠ a) :
    Covers r (r.map f h) ((r.toList.filter p).map key) := by
  refine ⟨keys_map, nodup_keys_filter p r, fun k hk => ?_, fun k => (mem_keys_filter h hp).mpr⟩
  obtain ⟨a, ha, rfl⟩ := List.mem_map.mp hk
  exact contains_iff.mpr ⟨a, (List.mem_filter.mp ha).1, rfl⟩

variable [DecidableEq κ]

theorem covers_foldl_put {l : List α} {r : Roll α} (hl : (l.map key).Nodup)
    (h : ∀ a ∈ l, r.contains (key a) = true) : Covers r (l.foldl put r) (l.map key) := by
  refine ⟨keys_foldl_put h, hl, fun k hk => ?_, fun k hne => ?_⟩
  · obtain ⟨a, ha, rfl⟩ := List.mem_map.mp hk
    exact h a ha
  · by_contra hout
    exact hne (find?_foldl_put fun a ha e => hout (e ▸ List.mem_map_of_mem ha))

theorem covers_put {r : Roll α} {a b : α} (hb : b ∈ r.toList) (hk : key b = key a) :
    Covers r (r.put a) [key a] :=
  covers_foldl_put (l := [a]) (List.nodup_singleton _) (by simpa using contains_iff.mpr ⟨b, hb, hk⟩)

end Roll

theorem Distribution.Poured.covers {b : Board} {d : Distribution} {amounts : Amounts}
    (h : Poured b d amounts) : Roll.Covers b.parcels d.parcels d.written := by
  rw [h.written_eq, h.parcels]
  refine Roll.covers_map (Roll.nodup_keys b.parcels) (fun k => Roll.mem_keys.mp) fun q hq hout => ?_
  exact absurd (List.mem_map_of_mem hq) hout

theorem Distributor.covers {b : Board} {d : Distributor} {water : Count} {r : Distribution}
    (h : d.distribute b water = .ok r) : Roll.Covers b.parcels r.parcels r.written := by
  rcases distribute_eq_ok h with ⟨_, h⟩ | ⟨_, h⟩ | ⟨_, h⟩ | ⟨cap, _, h⟩
  · exact (Distribution.Fair.poured h).1.covers
  · exact (Distribution.PerParcel.laid h).covers
  · obtain rfl := Option.some.inj ((Distribution.PlayerOnly.distribute?_eq b water).symm.trans h)
    exact Roll.covers_self b.parcels
  · exact (Distribution.Tiered.laid h).covers

namespace Recording

theorem changes_triggerAll (r : Recording) (l : List Notice) :
    (r.triggerAll l).changes = r.changes ++ l := by
  induction l generalizing r with
  | nil => exact (List.append_nil _).symm
  | cons n l ih =>
    show ((r.trigger n).triggerAll l).changes = _
    rw [ih, trigger, List.append_assoc, List.singleton_append]

theorem count_triggerAll (r : Recording) (l : List Notice) (n : Notice) :
    (r.triggerAll l).count n = r.count n + l.count n := by
  rw [count, changes_triggerAll, List.count_append, count]

theorem contains_iff {r : Recording} {n : Notice} : r.contains n = true ↔ 0 < r.count n := by
  rw [contains, count, List.contains_iff_mem, List.count_pos_iff]

end Recording

namespace Game

def knows (g : Game) : Notice → Bool
  | .player id => g.players.contains id
  | .parcel id => g.parcels.contains id
  | .asset id => g.assets.contains id

def Altered (g g' : Game) : Notice → Prop
  | .player id => g'.players.find? id ≠ g.players.find? id
  | .parcel id => g'.parcels.find? id ≠ g.parcels.find? id
  | .asset id => g'.assets.find? id ≠ g.assets.find? id

structure Told (g g' : Game) (notices : List Notice) : Prop where
  heard : ∀ n, Altered g g' n → notices.count n = 1
  once : ∀ n, notices.count n ≤ 1
  known : ∀ n ∈ notices, g.knows n = true ∧ g'.knows n = true

variable {g g' : Game}

theorem Told.recorded {notices : List Notice} (h : Told g g' notices) {n : Notice}
    (hn : Altered g g' n) (r : Recording) :
    (r.triggerAll notices).count n = r.count n + 1 ∧
      (r.triggerAll notices).contains n = true := by
  have hcount := r.count_triggerAll notices n
  rw [h.heard n hn] at hcount
  exact ⟨hcount, Recording.contains_iff.mpr (hcount ▸ Nat.succ_pos _)⟩

section

variable {ps : List PlayerId} {qs : List ParcelId} {as : List AssetId} {notices : List Notice}

theorem mem_notices
    (h : notices.Perm (ps.map Notice.player ++ (as.map Notice.asset ++ qs.map Notice.parcel)))
    (n : Notice) : n ∈ notices ↔ match n with
      | .player id => id ∈ ps
      | .parcel id => id ∈ qs
      | .asset id => id ∈ as := by
  rw [h.mem_iff]
  cases n <;> simp

theorem nodup_notices (hp : ps.Nodup) (ha : as.Nodup) (hq : qs.Nodup) :
    (ps.map Notice.player ++ (as.map Notice.asset ++ qs.map Notice.parcel)).Nodup := by
  have hrest : (as.map Notice.asset ++ qs.map Notice.parcel).Nodup :=
    (ha.map fun _ _ => Notice.asset.inj).append (hq.map fun _ _ => Notice.parcel.inj)
      (by simp [List.disjoint_left])
  exact (hp.map fun _ _ => Notice.player.inj).append hrest (by simp [List.disjoint_left])

theorem told (hp : Roll.Covers g.players g'.players ps) (hq : Roll.Covers g.parcels g'.parcels qs)
    (ha : Roll.Covers g.assets g'.assets as)
    (h : notices.Perm (ps.map Notice.player ++ (as.map Notice.asset ++ qs.map Notice.parcel))) :
    Told g g' notices := by
  have hmem := mem_notices h
  have hnodup : notices.Nodup := h.nodup_iff.mpr (nodup_notices hp.nodup ha.nodup hq.nodup)
  refine ⟨fun n hne => List.count_eq_one_of_mem hnodup ((hmem n).mpr ?_),
    fun n => List.nodup_iff_count_le_one.mp hnodup n, fun n hn => ?_⟩
  · cases n with
    | player id => exact hp.heard id hne
    | parcel id => exact hq.heard id hne
    | asset id => exact ha.heard id hne
  · have hn := (hmem n).mp hn
    cases n with
    | player id => exact ⟨hp.known id hn, (Roll.contains_congr hp.keys id).trans (hp.known id hn)⟩
    | parcel id => exact ⟨hq.known id hn, (Roll.contains_congr hq.keys id).trans (hq.known id hn)⟩
    | asset id => exact ⟨ha.known id hn, (Roll.contains_congr ha.keys id).trans (ha.known id hn)⟩

end

theorem told_nil (g : Game) : Told g g [] :=
  told (Roll.covers_self _) (Roll.covers_self _) (Roll.covers_self _) (.refl _)

theorem change_told {asset : AssetId} {player : PlayerId} {n : Count} {m : Move Change}
    (h : g.changeAllocation asset player n = .ok m) : Told g m.game m.notices := by
  rw [changeAllocation_eq] at h
  split at h
  · cases h
  · cases h
  rename_i p a hp ha
  obtain ⟨_, _, h⟩ := bind_eq_ok.mp h
  split at h
  · obtain rfl := Except.ok.inj h
    exact told_nil g
  rename_i hn
  obtain ⟨d, hd, hcommit⟩ := bind_eq_ok.mp h
  obtain ⟨_, _, hm⟩ := bind_eq_ok.mp hcommit
  obtain rfl := Except.ok.inj hm
  -- a parcel without a new balance keeps the one it has
  have hparcels : Roll.Covers g.parcels (rebalance d.balances g.parcels) d.balances.keys := by
    refine Roll.covers_map (Roll.nodup_keys d.balances) (Allocation.propose_known hn hd) ?_
    intro q _ hout
    have hnone : d.balances.find? q.id = none := Roll.contains_eq_false.mp
      (Bool.eq_false_iff.mpr fun hc => hout (Roll.mem_keys.mpr hc))
    rw [hnone]
  exact told (Roll.covers_put (Roll.mem_of_find? hp) rfl) hparcels
    (Roll.covers_put (Roll.mem_of_find? ha) rfl) (.refl _)

theorem distribute_told {d : Distributor} {water : Count} {m : Move Downpour}
    (h : g.distribute d water = .ok m) : Told g m.game m.notices := by
  obtain ⟨r, hr, h⟩ := bind_eq_ok.mp h
  obtain ⟨_, _, h⟩ := bind_eq_ok.mp h
  obtain rfl := Except.ok.inj h
  have hplayers : Roll.Covers g.players (handOut r.shares g.players)
      ((g.players.toList.filter fun p => p.water ≠ r.shares.of p.id).map key) := by
    refine Roll.covers_filter (fun _ => by rfl) fun p _ => ?_
    rw [decide_eq_true_eq]
    exact not_congr ⟨fun e => by rw [← e], fun e => (congrArg Player.water e).symm⟩
  refine told hplayers (Distributor.covers (mapError_eq_ok.mp hr)) (Roll.covers_self g.assets) ?_
  rw [List.map_map]
  exact List.perm_append_comm

theorem transferWater_told {id : ParcelId} {taker : Option PlayerId} {m : Move Unit}
    (h : g.transferWater id taker = .ok m) : Told g m.game m.notices := by
  obtain ⟨q, hq, h⟩ := bind_eq_ok.mp h
  obtain ⟨hmem, rfl⟩ := findParcel_eq_ok.mp hq
  split at h
  · obtain rfl := Except.ok.inj h
    exact told_nil g
  rename_i ho
  obtain ⟨sellers, hs, h⟩ := bind_eq_ok.mp h
  obtain ⟨buyers, hb, h⟩ := bind_eq_ok.mp h
  obtain rfl := Except.ok.inj h
  refine told (Roll.covers_foldl_put (nodup_parties ho hs hb) (known_parties hs hb))
    (Roll.covers_put hmem rfl) (Roll.covers_self g.assets) ?_
  rw [List.map_map]
  exact (List.perm_append_singleton ..).symm

theorem transferDevelopment_told {id : ParcelId} {taker : Option PlayerId} {m : Move Unit}
    (h : g.transferDevelopment id taker = .ok m) : Told g m.game m.notices := by
  obtain ⟨_, _, h⟩ := bind_eq_ok.mp h
  obtain ⟨q, hq, h⟩ := bind_eq_ok.mp h
  obtain ⟨hmem, rfl⟩ := findParcel_eq_ok.mp hq
  split at h
  · obtain rfl := Except.ok.inj h
    exact told_nil g
  · obtain rfl := Except.ok.inj h
    exact told (Roll.covers_self g.players) (Roll.covers_put hmem rfl) (Roll.covers_self g.assets)
      (.refl _)

theorem wet_iff {c : Count} {p : Prop} (h : p ↔ 0 = c) : decide (0 < c) = true ↔ ¬ p := by
  rw [decide_eq_true_eq, h, Count.lt_iff, ← Count.val_inj, Count.val_zero]
  omega

theorem wetPlayer_iff (p : Player) : decide (0 < p.water) = true ↔ { p with water := 0 } ≠ p :=
  wet_iff ⟨congrArg Player.water, fun e => by rw [e]⟩

theorem wetParcel_iff (q : Parcel) : decide (0 < q.water) = true ↔ { q with water := 0 } ≠ q :=
  wet_iff ⟨congrArg Parcel.water, fun e => by rw [e]⟩

theorem wetAsset_iff (a : Asset) :
    decide (0 < a.allocated) = true ↔ { a with allocated := 0 } ≠ a :=
  wet_iff ⟨congrArg Asset.allocated, fun e => by rw [e]⟩

theorem reset_notices {m : Move Reset} (h : g.reset = .ok m) :
    m.notices.Perm ((g.wetPlayers.map key).map Notice.player ++
      ((g.wetAssets.map key).map Notice.asset ++ (g.wetParcels.map key).map Notice.parcel)) := by
  obtain ⟨_, _, h⟩ := bind_eq_ok.mp h
  obtain rfl := Except.ok.inj h
  rw [List.map_map, List.map_map, List.map_map]
  exact List.perm_append_comm.trans (List.perm_append_comm.append_left _)

theorem reset_told {m : Move Reset} (h : g.reset = .ok m) : Told g m.game m.notices := by
  have hperm := reset_notices h
  obtain ⟨_, hm⟩ := reset_eq_ok h
  have hplayers : Roll.Covers g.players g.dryUp.players (g.wetPlayers.map key) :=
    Roll.covers_filter (fun _ => by rfl) fun p _ => wetPlayer_iff p
  have hparcels : Roll.Covers g.parcels g.dryUp.parcels (g.wetParcels.map key) :=
    Roll.covers_filter (fun _ => by rfl) fun q _ => wetParcel_iff q
  have hassets : Roll.Covers g.assets g.dryUp.assets (g.wetAssets.map key) :=
    Roll.covers_filter (fun _ => by rfl) fun a _ => wetAsset_iff a
  rw [← hm]
  exact told hplayers hparcels hassets hperm

theorem reset_mem_notices {m : Move Reset} (h : g.reset = .ok m) (n : Notice) :
    n ∈ m.notices ↔ Altered g m.game n := by
  obtain ⟨_, hm⟩ := reset_eq_ok h
  rw [mem_notices (reset_notices h), ← hm]
  cases n with
  | player id => exact Roll.mem_keys_filter (fun _ => by rfl) fun p _ => wetPlayer_iff p
  | parcel id => exact Roll.mem_keys_filter (fun _ => by rfl) fun q _ => wetParcel_iff q
  | asset id => exact Roll.mem_keys_filter (fun _ => by rfl) fun a _ => wetAsset_iff a

def Faithful {ε α : Type} (x : EStateM ε Scene α) : Prop :=
  ∀ s, match x.run s with
    | .ok _ s' => ∃ notices, s'.notices = s.notices ++ notices ∧ Told s.game s'.game notices
    | .error _ s' => s' = s

theorem faithful_of_run {ε α : Type} {x : EStateM ε Scene α} {f : Game → Except ε (Move α)}
    (hrun : ∀ s, x.run s = s.moved (f s.game))
    (htold : ∀ {g m}, f g = .ok m → Told g m.game m.notices) : Faithful x := by
  intro s
  rw [hrun]
  cases hm : f s.game with
  | ok m => exact ⟨m.notices, rfl, htold hm⟩
  | error e => rfl

theorem resetSteps_exact (s : Scene) :
    ∃ r s' notices, resetSteps.run s = .ok r s' ∧ s'.notices = s.notices ++ notices ∧
      ∀ n, n ∈ notices ↔ Altered s.game s'.game n := by
  rw [run_resetSteps]
  cases hm : s.game.reset with
  | ok m => exact ⟨_, _, m.notices, rfl, rfl, reset_mem_notices hm⟩
  | error e => exact absurd hm reset_ne_error

def Idles {ε α : Type} (x : EStateM ε Scene α) (s : Scene) : Prop :=
  match x.run s with
  | .ok _ s' => s' = s
  | .error _ s' => s' = s

theorem changeSteps_idles {s : Scene} {a : Asset} (ha : a ∈ s.game.assets.toList)
    (player : PlayerId) : Idles (changeSteps a.id player a.allocated) s := by
  have hf : s.game.assets.find? a.id = some a := Roll.find?_of_mem ha
  rw [Idles, run_changeSteps, changeAllocation_eq, hf]
  cases s.game.players.find? player with
  | none => rfl
  | some p =>
    dsimp only
    cases Allocation.check a p a.allocated with
    | error e => rfl
    | ok _ => simp

theorem transferSteps_idles {s : Scene} {q : Parcel} (hq : q ∈ s.game.parcels.toList) :
    Idles (transferSteps q.id q.waterOwner) s := by
  have hf : s.game.findParcel q.id = .ok q := findParcel_eq_ok.mpr ⟨hq, rfl⟩
  simp [Idles, run_transferSteps, transferWater, hf]

theorem developmentSteps_idles {s : Scene} {q : Parcel} (hq : q ∈ s.game.parcels.toList) :
    Idles (developmentSteps q.id q.developer) s := by
  have hf : s.game.findParcel q.id = .ok q := findParcel_eq_ok.mpr ⟨hq, rfl⟩
  rw [Idles, run_developmentSteps, transferDevelopment]
  cases eachOf s.game.findPlayer q.developer with
  | error e => rfl
  | ok _ => simp [hf]

theorem changes_told_once :
    (∀ asset player n, Faithful (changeSteps asset player n)) ∧
      (∀ d water, Faithful (distributeSteps d water)) ∧ Faithful resetSteps ∧
      (∀ id taker, Faithful (transferSteps id taker)) ∧
      (∀ id taker, Faithful (developmentSteps id taker)) ∧
      ∀ s : Scene,
        (∃ r s' notices, resetSteps.run s = .ok r s' ∧ s'.notices = s.notices ++ notices ∧
          ∀ n, n ∈ notices ↔ Altered s.game s'.game n) ∧
        (∀ a ∈ s.game.assets.toList, ∀ player, Idles (changeSteps a.id player a.allocated) s) ∧
        ∀ q ∈ s.game.parcels.toList, Idles (transferSteps q.id q.waterOwner) s ∧
          Idles (developmentSteps q.id q.developer) s := by
  refine ⟨fun asset player n => ?_, fun d water => ?_, ?_, fun id taker => ?_, fun id taker => ?_,
    fun s => ⟨resetSteps_exact s, fun a ha player => ?_, fun q hq => ⟨?_, ?_⟩⟩⟩
  · exact faithful_of_run (f := (·.changeAllocation asset player n))
      (run_changeSteps asset player n) change_told
  · exact faithful_of_run (f := (·.distribute d water)) (run_distributeSteps d water) distribute_told
  · exact faithful_of_run (f := reset) run_resetSteps reset_told
  · exact faithful_of_run (f := (·.transferWater id taker)) (run_transferSteps id taker)
      transferWater_told
  · exact faithful_of_run (f := (·.transferDevelopment id taker)) (run_developmentSteps id taker)
      transferDevelopment_told
  · exact changeSteps_idles ha player
  · exact transferSteps_idles hq
  · exact developmentSteps_idles hq

open Sample in
example : ((afterAll .empty (settling ++ [.distribute .fair (.clamp 12)])).distribute .fair
    (.clamp 12)).toOption.map (·.notices) = some [.parcel meadow.id, .parcel marsh.id] := by
  decide +kernel

end Game
end Watershed
