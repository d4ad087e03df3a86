import Watershed.Proofs.Allocation.Answer
import Watershed.Proofs.Game.Act

namespace Watershed

structure Request where
  asset : AssetId
  player : PlayerId
  amount : Count
deriving DecidableEq, Repr

structure View where
  round : Count
  player : Option Player
  parcels : Roll Parcel
  assets : Roll Asset
  owners : AssetId → Option PlayerId

def Game.view (g : Game) (p : PlayerId) : View :=
  ⟨g.round, g.players.find? p, g.parcels.filter (·.waterOwner = some p),
    g.assets.filter (·.owner = p), fun id => (g.assets.find? id).map (·.owner)⟩

namespace Change

def settle (c : Change) (q : Parcel) : Parcel :=
  { q with water := .clamp (q.water.val + amountAt c.returned q.id - amountAt c.drawn q.id) }

theorem key_settle (c : Change) (q : Parcel) : key (c.settle q) = key q := rfl

theorem filter_settle (c : Change) (r : Roll Parcel) (id : PlayerId) :
    (r.map c.settle c.key_settle).filter (·.waterOwner = some id) =
      (r.filter (·.waterOwner = some id)).map c.settle c.key_settle :=
  Roll.filter_map fun _ => rfl

end Change

namespace Allocation

variable {g : Game} {a : Asset} {p : Player} {m : Move Change}

theorem Carried.parcels_eq (h : Carried g a p m) :
    m.game.parcels = g.parcels.map m.result.settle m.result.key_settle := by
  obtain ⟨water, hw, hsum⟩ := h.parcels
  rw [hw]
  refine Roll.ext (List.map_congr_left fun q hq => ?_)
  have hq := hsum q hq
  have hlt := (water q.id).val_lt
  have hval : water q.id =
      .clamp (q.water.val + amountAt m.result.returned q.id - amountAt m.result.drawn q.id) := by
    refine Count.ext ?_
    rw [Count.val_clamp]
    omega
  rw [Change.settle, hval]

theorem Carried.settle_other (h : Carried g a p m) {q : Parcel} (hq : q ∈ g.parcels.toList)
    (ho : q.waterOwner ≠ some p.id) : m.result.settle q = q := by
  have hdrawn : amountAt m.result.drawn q.id = 0 := amountAt_of_not_mem fun x hx e => by
    obtain ⟨q', ⟨hq', ho', _⟩, hid, _⟩ := h.sound.drawnOwn x hx
    obtain rfl := Roll.eq_of_key hq' hq (hid.trans e)
    exact ho ho'
  have hreturned : amountAt m.result.returned q.id = 0 := amountAt_of_not_mem fun x hx e => by
    obtain ⟨q', ⟨hq', ho', _⟩, hid⟩ := h.sound.returnedOwn x hx
    obtain rfl := Roll.eq_of_key hq' hq (hid.trans e)
    exact ho ho'
  have hlt := q.water.val_lt
  have hwater : Count.clamp (q.water.val + 0 - 0) = q.water := by
    refine Count.ext ?_
    rw [Count.val_clamp]
    omega
  rw [Change.settle, hdrawn, hreturned, hwater]

theorem Carried.owner_eq (h : Carried g a p m) (ha : a ∈ g.assets.toList) (id : AssetId) :
    (m.game.assets.find? id).map (·.owner) = (g.assets.find? id).map (·.owner) := by
  have hfind : g.assets.find? a.id = some a := Roll.find?_of_mem ha
  rw [h.assets]
  by_cases hk : a.id = id
  · subst hk
    have hput := Roll.find?_put_self g.assets { a with allocated := m.result.current }
    rw [show (g.assets.put { a with allocated := m.result.current }).find? a.id = _ from hput, hfind]
    rfl
  · have hput := Roll.find?_put_of_ne (r := g.assets)
      (a := { a with allocated := m.result.current }) hk
    rw [hput]

theorem Carried.references (h : Carried g a p m) :
    ∀ e ∈ m.result.entries g.round, e.reference = some p.id.uuid := by
  intro e he
  have hp := h.sound.player
  rcases Change.mem_entries.mp he with ⟨x, _, rfl⟩ | ⟨x, _, rfl⟩ | ⟨_, rfl⟩ <;>
    exact congrArg (fun id : PlayerId => some id.uuid) hp

theorem Carried.view_other (h : Carried g a p m) (ha : a ∈ g.assets.toList) (ho : a.owner = p.id)
    {id : PlayerId} (hne : p.id ≠ id) : m.game.view id = g.view id := by
  obtain ⟨water, hplayers, _⟩ := h.players
  refine View.mk.injEq .. ▸ ⟨h.round, ?_, ?_, ?_, funext (h.owner_eq ha)⟩
  · rw [hplayers]
    exact Roll.find?_put_of_ne (a := { p with water := water }) hne
  · rw [h.parcels_eq, Change.filter_settle]
    refine Roll.map_eq_self fun q hq => ?_
    obtain ⟨hq, hid⟩ := Roll.mem_filter.mp hq
    refine h.settle_other hq fun hp => hne ?_
    exact Option.some.inj (hp.symm.trans (of_decide_eq_true hid))
  · rw [h.assets]
    refine Roll.ext_mem fun b => ?_
    simp only [Roll.mem_filter, Roll.mem_put, decide_eq_true_eq]
    constructor
    · rintro ⟨rfl | ⟨hb, _⟩, hid⟩
      · exact absurd (ho.symm.trans hid) hne
      · exact ⟨hb, hid⟩
    · rintro ⟨hb, hid⟩
      refine ⟨Or.inr ⟨hb, fun hk => hne ?_⟩, hid⟩
      obtain rfl : b = a := Roll.eq_of_key hb ha hk
      exact ho.symm.trans hid

variable {g' : Game} {m' : Move Change}

theorem ownedWater_congr (h : g.view p.id = g'.view p.id) : ownedWater g p = ownedWater g' p := by
  have hparcels := congrArg View.parcels h
  have hq : ∀ q : Parcel, q.waterOwner = some p.id → (q ∈ g.parcels.toList ↔ q ∈ g'.parcels.toList) := by
    intro q ho
    have hmem : q ∈ (g.view p.id).parcels.toList ↔ q ∈ (g'.view p.id).parcels.toList := by rw [hparcels]
    simpa [Game.view, Roll.mem_filter, ho] using hmem
  refine Roll.ext_mem fun x => ?_
  rw [mem_ownedWater, mem_ownedWater]
  refine exists_congr fun q => and_congr_left fun _ => ?_
  unfold Owns
  constructor
  · rintro ⟨hm, ho, hr⟩
    exact ⟨(hq q ho).mp hm, ho, hr⟩
  · rintro ⟨hm, ho, hr⟩
    exact ⟨(hq q ho).mpr hm, ho, hr⟩

theorem Carried.view_own (h : Carried g a p m) (h' : Carried g' a p m')
    (hr : m.result = m'.result) (hv : g.view p.id = g'.view p.id) (ha : a ∈ g.assets.toList)
    (ha' : a ∈ g'.assets.toList) : m.game.view p.id = m'.game.view p.id := by
  obtain ⟨hround, _, hparcels, hassets, howners⟩ := View.mk.injEq .. ▸ hv
  obtain ⟨water, hplayers, hsum⟩ := h.players
  obtain ⟨water', hplayers', hsum'⟩ := h'.players
  have hwater : water = water' := by
    rw [← hr] at hsum'
    exact Count.ext (by omega)
  refine View.mk.injEq .. ▸ ⟨?_, ?_, ?_, ?_, ?_⟩
  · rw [h.round, h'.round, hround]
  · rw [hplayers, hplayers', hwater]
    exact (Roll.find?_put_self _ { p with water := water' }).trans
      (Roll.find?_put_self _ { p with water := water' }).symm
  · rw [h.parcels_eq, h'.parcels_eq, Change.filter_settle, Change.filter_settle, hparcels]
    simp only [hr]
  · rw [h.assets, h'.assets, hr]
    refine Roll.ext_mem fun b => ?_
    have hb : b ∈ (g.assets.filter (·.owner = p.id)).toList ↔
        b ∈ (g'.assets.filter (·.owner = p.id)).toList := by rw [hassets]
    simp only [Roll.mem_filter, Roll.mem_put, decide_eq_true_eq] at hb ⊢
    constructor
    · rintro ⟨rfl | ⟨hm, hk⟩, hid⟩
      · exact ⟨Or.inl rfl, hid⟩
      · exact ⟨Or.inr ⟨(hb.mp ⟨hm, hid⟩).1, hk⟩, hid⟩
    · rintro ⟨rfl | ⟨hm, hk⟩, hid⟩
      · exact ⟨Or.inl rfl, hid⟩
      · exact ⟨Or.inr ⟨(hb.mpr ⟨hm, hid⟩).1, hk⟩, hid⟩
  · refine funext fun id => ?_
    rw [h.owner_eq ha, h'.owner_eq ha']
    exact congrFun howners id

end Allocation

namespace Game

def serve (g : Game) (r : Request) : Game := g.after (.change r.asset r.player r.amount)

def serveAll (g : Game) (rs : List Request) : Game := rs.foldl serve g

def answers : Game → List Request → List (PlayerId × Except AllocationFault Change)
  | _, [] => []
  | g, r :: rs => (r.player, g.answer r.asset r.player r.amount) :: answers (g.serve r) rs

def writtenSince (g g₀ : Game) : List Entry := g.ledger.entries.drop g₀.ledger.entries.length

theorem serve_cases (g : Game) (r : Request) :
    (∃ e, g.answer r.asset r.player r.amount = .error e ∧ g.serve r = g) ∨
      ∃ m, g.changeAllocation r.asset r.player r.amount = .ok m ∧
        g.answer r.asset r.player r.amount = .ok m.result ∧ g.serve r = m.game := by
  have hserve : g.serve r =
      ((g.changeAllocation r.asset r.player r.amount).toOption.map (·.game)).getD g := rfl
  rw [hserve, answer]
  cases g.changeAllocation r.asset r.player r.amount with
  | error e => exact Or.inl ⟨e, rfl, rfl⟩
  | ok m => exact Or.inr ⟨m, rfl, rfl, rfl⟩

theorem asset_of_view {g g' : Game} {p : PlayerId} (h : g.view p = g'.view p) {a : Asset}
    (ha : a ∈ g.assets.toList) (ho : a.owner = p) : a ∈ g'.assets.toList := by
  have hmem : a ∈ (g.view p).assets.toList := Roll.mem_filter.mpr ⟨ha, decide_eq_true ho⟩
  rw [h] at hmem
  exact (Roll.mem_filter.mp hmem).1

theorem answer_congr {g g' : Game} {p : PlayerId} (h : g.view p = g'.view p) (asset : AssetId)
    (n : Count) : g.answer asset p n = g'.answer asset p n := by
  obtain ⟨hround, hplayer, _, _, howners⟩ := View.mk.injEq .. ▸ h
  have howner := congrFun howners asset
  rw [answer_eq, answer_eq, ← hplayer]
  cases hp : g.players.find? p with
  | none => rfl
  | some pl =>
    obtain rfl : pl.id = p := Roll.key_of_find? hp
    cases ha : g.assets.find? asset with
    | none =>
      rw [ha, Option.map_none, eq_comm, Option.map_eq_none_iff] at howner
      rw [howner]
    | some a =>
      rw [ha, Option.map_some, eq_comm, Option.map_eq_some_iff] at howner
      obtain ⟨a', ha', howner⟩ := howner
      obtain rfl : a.id = asset := Roll.key_of_find? ha
      have hid : a'.id = a.id := Roll.key_of_find? ha'
      rw [ha']
      dsimp only
      by_cases ho : a.owner = pl.id
      · have hmem := asset_of_view h (Roll.mem_of_find? ha) ho
        obtain rfl : a = a' := Roll.eq_of_key hmem (Roll.mem_of_find? ha') hid.symm
        have howned := Allocation.ownedWater_congr h
        simp only [Allocation.propose, Allocation.increase, Allocation.decrease, hround, howned]
      · have hforeign : Allocation.check a pl n = .error (.notOwner pl.id a.id) := if_pos ho
        have hforeign' : Allocation.check a' pl n = .error (.notOwner pl.id a.id) := by
          rw [Allocation.check, if_pos (howner ▸ ho), hid]
        rw [hforeign, hforeign']
        rfl

theorem serve_view_other {g : Game} {r : Request} {p : PlayerId} (hne : r.player ≠ p) :
    (g.serve r).view p = g.view p := by
  rcases serve_cases g r with ⟨_, _, hs⟩ | ⟨m, hm, _, hs⟩
  · rw [hs]
  · obtain ⟨pl, a, hpl, ha, howner, _, _, _, hc⟩ := changeAllocation_eq_ok hm
    have hid : pl.id = r.player := Roll.key_of_find? hpl
    rw [hs]
    exact hc.view_other (Roll.mem_of_find? ha) howner (hid ▸ hne)

theorem serve_view_own {g g' : Game} {r : Request} (h : g.view r.player = g'.view r.player) :
    (g.serve r).view r.player = (g'.serve r).view r.player := by
  have hanswer := answer_congr h r.asset r.amount
  rcases serve_cases g r with ⟨e, he, hs⟩ | ⟨m, hm, ha, hs⟩
  · rcases serve_cases g' r with ⟨_, _, hs'⟩ | ⟨m', _, ha', _⟩
    · rw [hs, hs', h]
    · rw [he, ha'] at hanswer
      cases hanswer
  · rcases serve_cases g' r with ⟨e', he', _⟩ | ⟨m', hm', ha', hs'⟩
    · rw [ha, he'] at hanswer
      cases hanswer
    · rw [ha, ha'] at hanswer
      obtain ⟨pl, a, hpl, hasset, howner, _, _, _, hc⟩ := changeAllocation_eq_ok hm
      obtain ⟨pl', a', hpl', hasset', _, _, _, _, hc'⟩ := changeAllocation_eq_ok hm'
      have hplayer : g.players.find? r.player = g'.players.find? r.player := congrArg View.player h
      rw [hpl, hpl'] at hplayer
      obtain rfl := Option.some.inj hplayer
      have hid : pl.id = r.player := Roll.key_of_find? hpl
      rw [← hid] at h
      have hmem := asset_of_view h (Roll.mem_of_find? hasset) howner
      have hkey : a.id = a'.id := (Roll.key_of_find? hasset).trans (Roll.key_of_find? hasset').symm
      obtain rfl : a = a' := Roll.eq_of_key hmem (Roll.mem_of_find? hasset') hkey
      rw [hs, hs', ← hid]
      exact hc.view_own hc' (Except.ok.inj hanswer) h (Roll.mem_of_find? hasset) hmem

def entriesOf (g : Game) (r : Request) : List Entry :=
  match g.answer r.asset r.player r.amount with
  | .ok c => c.entries g.round
  | .error _ => []

theorem serve_ledger (g : Game) (r : Request) :
    (g.serve r).ledger = g.ledger.appendAll (g.entriesOf r) := by
  unfold entriesOf
  rcases serve_cases g r with ⟨e, he, hs⟩ | ⟨m, hm, ha, hs⟩
  · rw [hs, he, Ledger.appendAll_nil]
  · obtain ⟨_, _, _, _, _, _, _, _, hc⟩ := changeAllocation_eq_ok hm
    rw [hs, ha, hc.ledger]

theorem entriesOf_references (g : Game) (r : Request) :
    ∀ e ∈ g.entriesOf r, e.reference = some r.player.uuid := by
  unfold entriesOf
  rcases serve_cases g r with ⟨e, he, _⟩ | ⟨m, hm, ha, _⟩
  · simp [he]
  · obtain ⟨pl, _, hpl, _, _, _, _, _, hc⟩ := changeAllocation_eq_ok hm
    have hid : pl.id = r.player := Roll.key_of_find? hpl
    rw [ha, ← hid]
    exact hc.references

theorem entriesOf_congr {g g' : Game} {r : Request} (h : g.view r.player = g'.view r.player) :
    g.entriesOf r = g'.entriesOf r := by
  have hround : g.round = g'.round := congrArg View.round h
  rw [entriesOf, entriesOf, answer_congr h, hround]

def entriesOfAll : Game → List Request → List Entry
  | _, [] => []
  | g, r :: rs => g.entriesOf r ++ entriesOfAll (g.serve r) rs

theorem serveAll_ledger (g : Game) (rs : List Request) :
    (g.serveAll rs).ledger = g.ledger.appendAll (entriesOfAll g rs) := by
  induction rs generalizing g with
  | nil => exact (Ledger.appendAll_nil g.ledger).symm
  | cons r rs ih =>
    show ((g.serve r).serveAll rs).ledger = _
    rw [ih, serve_ledger, Ledger.appendAll_appendAll]
    rfl

theorem writtenSince_serveAll (g : Game) (rs : List Request) :
    (g.serveAll rs).writtenSince g = entriesOfAll g rs := by
  rw [writtenSince, serveAll_ledger, Ledger.entries_appendAll, List.drop_left]

def requestsOf (p : PlayerId) (rs : List Request) : List Request := rs.filter (·.player = p)

theorem requestsOf_cons_self (r : Request) (rs : List Request) :
    requestsOf r.player (r :: rs) = r :: requestsOf r.player rs :=
  List.filter_cons_of_pos (decide_eq_true rfl)

theorem requestsOf_cons_other {p : PlayerId} {r : Request} (h : r.player ≠ p) (rs : List Request) :
    requestsOf p (r :: rs) = requestsOf p rs :=
  List.filter_cons_of_neg fun hd => h (of_decide_eq_true hd)

def entriesFor (p : PlayerId) (es : List Entry) : List Entry :=
  es.filter (·.reference = some p.uuid)

theorem entriesFor_self (g : Game) (r : Request) :
    entriesFor r.player (g.entriesOf r) = g.entriesOf r :=
  List.filter_eq_self.mpr fun e he => decide_eq_true (entriesOf_references g r e he)

theorem entriesFor_other {p : PlayerId} {r : Request} (h : r.player ≠ p) (g : Game) :
    entriesFor p (g.entriesOf r) = [] := by
  refine List.filter_eq_nil_iff.mpr fun e he hd => h ?_
  have huuid := (entriesOf_references g r e he).symm.trans (of_decide_eq_true hd)
  exact PlayerId.ext (congrArg Uuid.val (Option.some.inj huuid))

theorem serveAll_own {g g' : Game} {p : PlayerId} (h : g.view p = g'.view p) (rs : List Request) :
    (answers g rs).filter (·.1 = p) = answers g' (requestsOf p rs) ∧
      (g.serveAll rs).view p = (g'.serveAll (requestsOf p rs)).view p ∧
      entriesFor p (entriesOfAll g rs) = entriesOfAll g' (requestsOf p rs) := by
  induction rs generalizing g g' with
  | nil => exact ⟨rfl, h, rfl⟩
  | cons r rs ih =>
    by_cases hp : r.player = p
    · subst hp
      obtain ⟨hanswers, hview, hentries⟩ := ih (serve_view_own h)
      rw [requestsOf_cons_self]
      refine ⟨?_, hview, ?_⟩
      · simp only [answers, List.filter_cons, decide_true, if_true, hanswers, answer_congr h]
      · rw [entriesOfAll, entriesOfAll, entriesFor, List.filter_append, ← entriesFor, ← entriesFor,
          hentries, entriesFor_self, entriesOf_congr h]
    · obtain ⟨hanswers, hview, hentries⟩ := ih ((serve_view_other hp).trans h)
      rw [requestsOf_cons_other hp]
      refine ⟨?_, hview, ?_⟩
      · simp only [answers, List.filter_cons, hp, decide_false, Bool.false_eq_true, if_false, hanswers]
      · rw [entriesOfAll, entriesFor, List.filter_append, ← entriesFor, ← entriesFor, hentries,
          entriesFor_other hp, List.nil_append]

theorem serve_unowned (g : Game) (r : Request) {q : Parcel} (ho : q.waterOwner = none) :
    q ∈ (g.serve r).parcels.toList ↔ q ∈ g.parcels.toList := by
  rcases serve_cases g r with ⟨_, _, hs⟩ | ⟨m, hm, _, hs⟩
  · rw [hs]
  obtain ⟨pl, a, _, _, _, _, _, _, hc⟩ := changeAllocation_eq_ok hm
  rw [hs, hc.parcels_eq, Roll.mem_map]
  constructor
  · rintro ⟨q', hq', rfl⟩
    have hne : q'.waterOwner ≠ some pl.id := fun e => by
      have hn : q'.waterOwner = none := ho
      rw [hn] at e
      cases e
    rwa [hc.settle_other hq' hne]
  · intro hq
    exact ⟨q, hq, hc.settle_other hq (by simp [ho])⟩

theorem serveAll_unowned (g : Game) (rs : List Request) {q : Parcel} (ho : q.waterOwner = none) :
    q ∈ (g.serveAll rs).parcels.toList ↔ q ∈ g.parcels.toList := by
  induction rs generalizing g with
  | nil => exact Iff.rfl
  | cons r rs ih => exact (ih (g.serve r)).trans (serve_unowned g r ho)

theorem eq_of_views {g g' : Game} (h : ∀ p, g.view p = g'.view p)
    (hu : ∀ q, q.waterOwner = none → (q ∈ g.parcels.toList ↔ q ∈ g'.parcels.toList)) :
    g.players = g'.players ∧ g.parcels = g'.parcels ∧ g.assets = g'.assets := by
  refine ⟨Roll.ext_mem fun p => ?_, Roll.ext_mem fun q => ?_, Roll.ext_mem fun a => ?_⟩
  · have hfind : g.players.find? p.id = g'.players.find? p.id := congrArg View.player (h p.id)
    have hmem : ∀ r : Roll Player, p ∈ r.toList ↔ r.find? p.id = some p := fun r => by
      rw [Roll.find?_eq_some]
      exact (and_iff_left rfl).symm
    rw [hmem, hmem, hfind]
  · cases ho : q.waterOwner with
    | none => exact hu q ho
    | some p =>
      have hparcels := congrArg (fun v => q ∈ v.parcels.toList) (h p)
      simpa only [view, Roll.mem_filter, ho, decide_true, and_true, eq_iff_iff] using hparcels
  · exact ⟨fun ha => asset_of_view (h a.owner) ha rfl,
      fun ha => asset_of_view (h a.owner).symm ha rfl⟩

theorem requests_independent (g : Game) :
    (∀ rs p,
      (answers g rs).filter (·.1 = p) = answers g (requestsOf p rs) ∧
      (g.serveAll rs).view p = (g.serveAll (requestsOf p rs)).view p ∧
      entriesFor p ((g.serveAll rs).writtenSince g) =
        entriesFor p ((g.serveAll (requestsOf p rs)).writtenSince g)) ∧
    ∀ rs rs', (∀ p, requestsOf p rs = requestsOf p rs') →
      (g.serveAll rs).players = (g.serveAll rs').players ∧
      (g.serveAll rs).parcels = (g.serveAll rs').parcels ∧
      (g.serveAll rs).assets = (g.serveAll rs').assets := by
  refine ⟨fun rs p => ?_, fun rs rs' h => eq_of_views (fun p => ?_) fun q ho => ?_⟩
  · obtain ⟨hanswers, hview, hentries⟩ := serveAll_own (p := p) (Eq.refl (g.view p)) rs
    refine ⟨hanswers, hview, ?_⟩
    -- the player's own requests write nothing for anybody else
    have hown := (serveAll_own (p := p) (Eq.refl (g.view p)) (requestsOf p rs)).2.2
    rw [requestsOf, requestsOf, List.filter_filter] at hown
    simp only [Bool.and_self] at hown
    rw [writtenSince_serveAll, writtenSince_serveAll, hentries]
    exact hown.symm
  · rw [(serveAll_own (Eq.refl (g.view p)) rs).2.1, (serveAll_own (Eq.refl (g.view p)) rs').2.1, h p]
  · rw [serveAll_unowned g rs ho, serveAll_unowned g rs' ho]

def watered : Game :=
  afterAll .empty
    [.deal (.addPlayer Sample.farmer), .deal (.addPlayer Sample.miller),
      .deal (.addParcel Sample.meadow),
      .deal (.addParcel { Sample.marsh with developer := some Sample.farmer.id }),
      .deal (.build Sample.mill Sample.miller.id Sample.meadow.id
        ⟨"mill", .factory, 1, .clamp 5, true, 0⟩),
      .deal (.build ⟨.ofNat 6⟩ Sample.farmer.id Sample.marsh.id
        ⟨"field", .crops, 1, .clamp 4, false, 0⟩),
      .setRound 1, .distribute .fair (.clamp 12)]

def millFirst : List Request :=
  [⟨Sample.mill, Sample.miller.id, .clamp 3⟩, ⟨Sample.mill, Sample.miller.id, .clamp 6⟩,
    ⟨⟨.ofNat 6⟩, Sample.farmer.id, .clamp 4⟩, ⟨Sample.mill, Sample.farmer.id, 0⟩]

def fieldFirst : List Request :=
  [⟨⟨.ofNat 6⟩, Sample.farmer.id, .clamp 4⟩, ⟨Sample.mill, Sample.miller.id, .clamp 3⟩,
    ⟨Sample.mill, Sample.farmer.id, 0⟩, ⟨Sample.mill, Sample.miller.id, .clamp 6⟩]

theorem orders_alike : (∀ p, requestsOf p millFirst = requestsOf p fieldFirst) ∧
    (watered.serveAll millFirst).players = (watered.serveAll fieldFirst).players ∧
    (watered.serveAll millFirst).players.toList.map (·.water.val) = [4, 2] := by
  have h : ∀ p, requestsOf p millFirst = requestsOf p fieldFirst := by
    intro p
    by_cases hf : Sample.farmer.id = p
    · subst hf
      decide
    by_cases hm : Sample.miller.id = p
    · subst hm
      decide
    · simp [requestsOf, millFirst, fieldFirst, hf, hm]
  exact ⟨h, ((requests_independent watered).2 millFirst fieldFirst h).1, by decide +kernel⟩

end Game
end Watershed
