import Watershed.Proofs.Board.Owners
import Watershed.Proofs.Game.Titles

namespace Watershed.Game

def Names (g : Game) (id : ParcelId) (p : PlayerId) : Prop :=
  ∃ q ∈ g.parcels.toList, q.id = id ∧ q.waterOwner = some p

def rightsOf (g : Game) (p : PlayerId) : Nat :=
  g.parcels.sum fun q => if q.waterOwner = some p then q.rights.val else 0

def Known (g : Game) (p : PlayerId) : Prop := ∃ player ∈ g.players.toList, player.id = p

structure Rightful (g : Game) : Prop where
  waterOwner : ∀ q ∈ g.parcels.toList, ∀ id, q.waterOwner = some id → g.Known id
  developer : ∀ q ∈ g.parcels.toList, ∀ id, q.developer = some id → g.Known id
  rights : ∀ p ∈ g.players.toList, ∀ id, id ∈ p.rights.toList ↔ g.Names id p.id
  entitlement : ∀ p ∈ g.players.toList, p.entitlement.val = g.rightsOf p.id

theorem rightful_empty : Rightful .empty := by
  refine ⟨?_, ?_, ?_, ?_⟩ <;> intro _ h <;> cases h

theorem SameTitles.known {g g' : Game} (h : SameTitles g g') {id : PlayerId} (hk : g.Known id) :
    g'.Known id := by
  obtain ⟨p, hp, rfl⟩ := hk
  obtain ⟨p', hp', hd⟩ := h.symm.player hp
  exact ⟨p', hp', congrArg Deeds.id hd⟩

theorem SameTitles.names {g g' : Game} (h : SameTitles g g') {id : ParcelId} {p : PlayerId}
    (hn : g.Names id p) : g'.Names id p := by
  obtain ⟨q, hq, rfl, ho⟩ := hn
  obtain ⟨q', hq', ht⟩ := h.symm.parcel hq
  exact ⟨q', hq', congrArg Title.id ht, (congrArg Title.waterOwner ht).trans ho⟩

theorem SameTitles.rightsOf {g g' : Game} (h : SameTitles g g') (p : PlayerId) :
    g'.rightsOf p = g.rightsOf p :=
  h.sum fun t => if t.waterOwner = some p then t.rights.val else 0

theorem Rightful.of_sameTitles {g g' : Game} (hg : Rightful g) (h : SameTitles g g') :
    Rightful g' := by
  refine ⟨fun q' hq' id ho => ?_, fun q' hq' id ho => ?_, fun p' hp' id => ?_, fun p' hp' => ?_⟩
  · obtain ⟨q, hq, ht⟩ := h.parcel hq'
    exact h.known (hg.waterOwner q hq id ((congrArg Title.waterOwner ht).trans ho))
  · obtain ⟨q, hq, ht⟩ := h.parcel hq'
    exact h.known (hg.developer q hq id ((congrArg Title.developer ht).trans ho))
  · obtain ⟨p, hp, hd⟩ := h.player hp'
    have hid : p.id = p'.id := congrArg Deeds.id hd
    have hrights : p.rights = p'.rights := congrArg Deeds.rights hd
    rw [← hrights, hg.rights p hp id, hid]
    exact ⟨h.names, h.symm.names⟩
  · obtain ⟨p, hp, hd⟩ := h.player hp'
    have hid : p.id = p'.id := congrArg Deeds.id hd
    have hentitlement : p.entitlement = p'.entitlement := congrArg Deeds.entitlement hd
    rw [← hentitlement, hg.entitlement p hp, hid, h.rightsOf]

theorem Rightful.stranger {g : Game} (hg : Rightful g) {p : PlayerId} (hp : g.players.find? p = none) :
    ∀ q ∈ g.parcels.toList, q.waterOwner ≠ some p := by
  intro q hq ho
  obtain ⟨player, hm, hid⟩ := hg.waterOwner q hq p ho
  exact Roll.find?_eq_none.mp hp player hm hid

theorem addPlayer_rightful {g g' : Game} {p : Player} (hg : Rightful g) (hr : p.rights = .empty)
    (he : p.entitlement = 0) (h : g.addPlayer p = .ok g') : Rightful g' := by
  obtain ⟨hnew, rfl⟩ := addPlayer_eq_ok.mp h
  have hstranger := hg.stranger hnew
  have hknown : ∀ id, g.Known id → Known { g with players := g.players.put p } id := by
    rintro id ⟨p', hp', rfl⟩
    exact ⟨p', Roll.mem_put.mpr (Or.inr ⟨hp', Roll.find?_eq_none.mp hnew p' hp'⟩), rfl⟩
  refine ⟨fun q hq id ho => hknown id (hg.waterOwner q hq id ho),
    fun q hq id ho => hknown id (hg.developer q hq id ho), fun p' hp' id => ?_, fun p' hp' => ?_⟩
  · rcases Roll.mem_put.mp hp' with rfl | ⟨hp', _⟩
    · rw [hr]
      refine iff_of_false (fun hm => by cases hm) ?_
      rintro ⟨q, hq, _, ho⟩
      exact hstranger q hq ho
    · exact hg.rights p' hp' id
  · rcases Roll.mem_put.mp hp' with rfl | ⟨hp', _⟩
    · rw [he]
      exact (Roll.sum_eq_zero fun q hq => if_neg (hstranger q hq)).symm
    · exact hg.entitlement p' hp'

theorem names_put {g g' : Game} {q : Parcel} (h : g'.parcels = g.parcels.put q) {id : ParcelId}
    {p : PlayerId} :
    g'.Names id p ↔ (q.id = id ∧ q.waterOwner = some p) ∨ (q.id ≠ id ∧ g.Names id p) := by
  simp only [Names, h, Roll.mem_put]
  constructor
  · rintro ⟨r, rfl | ⟨hr, hk⟩, rfl, ho⟩
    · exact Or.inl ⟨rfl, ho⟩
    · exact Or.inr ⟨fun e => hk e.symm, r, hr, rfl, ho⟩
  · rintro (⟨rfl, ho⟩ | ⟨hne, r, hr, rfl, ho⟩)
    · exact ⟨q, Or.inl rfl, rfl, ho⟩
    · exact ⟨r, Or.inr ⟨hr, fun e => hne e.symm⟩, rfl, ho⟩

theorem owner_known_put {g g' : Game} {q : Parcel} (h : g'.parcels = g.parcels.put q)
    (hknown : ∀ id, g.Known id → g'.Known id) {owner : Parcel → Option PlayerId}
    (hold : ∀ r ∈ g.parcels.toList, ∀ id, owner r = some id → g.Known id)
    (hnew : ∀ id, owner q = some id → g.Known id) :
    ∀ r ∈ g'.parcels.toList, ∀ id, owner r = some id → g'.Known id := by
  intro r hr id ho
  rw [h] at hr
  rcases Roll.mem_put.mp hr with rfl | ⟨hr, _⟩
  · exact hknown id (hnew id ho)
  · exact hknown id (hold r hr id ho)

theorem Settled.rightful {g g' : Game} {q : Parcel} (hg : Rightful g) (hs : Settled g q g') :
    Rightful g' := by
  have hknown : ∀ id, g.Known id → g'.Known id := by
    rintro id ⟨p, hp, rfl⟩
    exact hs.remain p hp
  have hsum : ∀ p, g'.rightsOf p = g.rightsOf p + if q.waterOwner = some p then q.rights.val else 0 := by
    intro p
    rw [rightsOf, hs.parcels, Roll.sum_put_new hs.new]
    rfl
  have hfree : ∀ p, ¬ g.Names q.id p := by
    rintro p ⟨r, hr, hid, _⟩
    exact Roll.find?_eq_none.mp hs.new r hr hid
  refine ⟨owner_known_put hs.parcels hknown hg.waterOwner hs.waterOwner,
    owner_known_put hs.parcels hknown hg.developer hs.developer, fun p' hp' id => ?_,
    fun p' hp' => ?_⟩
  · obtain ⟨p, hp, he⟩ := hs.players p' hp'
    rw [names_put hs.parcels]
    cases he with
    | owner e ho he =>
      rw [Roll.mem_put, hg.rights p hp id]
      constructor
      · rintro (rfl | ⟨hn, hne⟩)
        · exact Or.inl ⟨rfl, ho⟩
        · exact Or.inr ⟨fun e => hne e.symm, hn⟩
      · rintro (⟨rfl, _⟩ | ⟨hne, hn⟩)
        · exact Or.inl rfl
        · exact Or.inr ⟨hn, fun e => hne e.symm⟩
    | other ho =>
      rw [hg.rights p' hp id]
      constructor
      · intro hn
        exact Or.inr ⟨fun e => hfree p'.id (e ▸ hn), hn⟩
      · rintro (⟨_, ho'⟩ | ⟨_, hn⟩)
        · exact absurd ho' ho
        · exact hn
  · obtain ⟨p, hp, he⟩ := hs.players p' hp'
    have hentitlement := hg.entitlement p hp
    have hsum := hsum p.id
    cases he with
    | owner e ho he =>
      rw [if_pos ho] at hsum
      show e.val = g'.rightsOf p.id
      omega
    | other ho =>
      rw [if_neg ho] at hsum
      omega

theorem Transferred.rightful {g g' : Game} {q : Parcel} {taker : Option PlayerId}
    (hg : Rightful g) (hq : q ∈ g.parcels.toList) (ht : Transferred g q taker g') :
    Rightful g' := by
  have hknown : ∀ id, g.Known id → g'.Known id := by
    rintro id ⟨p, hp, rfl⟩
    exact ht.remain p hp
  have hsum : ∀ p, g'.rightsOf p + (if q.waterOwner = some p then q.rights.val else 0) =
      g.rightsOf p + if taker = some p then q.rights.val else 0 := by
    intro p
    rw [rightsOf, ht.parcels]
    exact Roll.sum_put_of_mem hq rfl
  refine ⟨owner_known_put ht.parcels hknown hg.waterOwner ht.known,
    owner_known_put ht.parcels hknown hg.developer (hg.developer q hq), fun p' hp' id => ?_,
    fun p' hp' => ?_⟩
  · obtain ⟨p, hp, hp'⟩ := ht.players p' hp'
    have hself : g.Names q.id p.id ↔ q.waterOwner = some p.id := by
      constructor
      · rintro ⟨r, hr, hid, ho⟩
        exact Roll.eq_of_key hr hq hid ▸ ho
      · exact fun ho => ⟨q, hq, rfl, ho⟩
    rw [names_put ht.parcels]
    cases hp' with
    | seller e hs hb he =>
      rw [Roll.mem_erase, hg.rights p hp id]
      constructor
      · rintro ⟨hn, hne⟩
        exact Or.inr ⟨fun e => hne e.symm, hn⟩
      · rintro (⟨_, hb'⟩ | ⟨hne, hn⟩)
        · exact absurd hb' hb
        · exact ⟨hn, fun e => hne e.symm⟩
    | buyer e w hs hb he hw =>
      rw [Roll.mem_put, hg.rights p hp id]
      constructor
      · rintro (rfl | ⟨hn, hne⟩)
        · exact Or.inl ⟨rfl, hb⟩
        · exact Or.inr ⟨fun e => hne e.symm, hn⟩
      · rintro (⟨rfl, _⟩ | ⟨hne, hn⟩)
        · exact Or.inl rfl
        · exact Or.inr ⟨hn, fun e => hne e.symm⟩
    | other hs hb =>
      rw [hg.rights p' hp id]
      constructor
      · intro hn
        exact Or.inr ⟨fun e => hs (hself.mp (e ▸ hn)), hn⟩
      · rintro (⟨_, hb'⟩ | ⟨_, hn⟩)
        · exact absurd hb' hb
        · exact hn
  · obtain ⟨p, hp, hp'⟩ := ht.players p' hp'
    have hentitlement := hg.entitlement p hp
    have hsum := hsum p.id
    cases hp' with
    | seller e hs hb he =>
      rw [if_pos hs, if_neg hb] at hsum
      show e.val = g'.rightsOf p.id
      omega
    | buyer e w hs hb he hw =>
      rw [if_neg hs, if_pos hb] at hsum
      show e.val = g'.rightsOf p.id
      omega
    | other hs hb =>
      rw [if_neg hs, if_neg hb] at hsum
      omega

theorem transferDevelopment_rightful {g : Game} {id : ParcelId} {taker : Option PlayerId}
    {m : Move Unit} (hg : Rightful g) (h : g.transferDevelopment id taker = .ok m) :
    Rightful m.game := by
  obtain ⟨hknown, q, hq, hm⟩ := transferDevelopment_eq_ok h
  have hparcels : m.game.parcels = g.parcels.put { q with developer := taker } := by rw [← hm]
  have hnames : ∀ id p, m.game.Names id p ↔ g.Names id p := by
    intro id p
    rw [names_put hparcels]
    constructor
    · rintro (⟨rfl, ho⟩ | ⟨_, hn⟩)
      · exact ⟨q, hq, rfl, ho⟩
      · exact hn
    · rintro ⟨r, hr, rfl, ho⟩
      by_cases hk : q.id = r.id
      · obtain rfl := Roll.eq_of_key hq hr hk
        exact Or.inl ⟨rfl, ho⟩
      · exact Or.inr ⟨hk, r, hr, rfl, ho⟩
  have hsum : ∀ p, m.game.rightsOf p = g.rightsOf p := by
    intro p
    rw [rightsOf, hparcels]
    exact Roll.sum_put_same hq rfl rfl
  have hremain : ∀ id, g.Known id → m.game.Known id := by
    rw [← hm]
    exact fun _ hk => hk
  refine ⟨owner_known_put hparcels hremain hg.waterOwner (hg.waterOwner q hq),
    owner_known_put hparcels hremain hg.developer hknown, ?_, ?_⟩
  · simp only [hnames]
    rw [← hm]
    exact hg.rights
  · simp only [hsum]
    rw [← hm]
    exact hg.entitlement

end Watershed.Game

namespace Watershed

def Act.Plain (_ : Game) : Act → Prop
  | .deal (.addPlayer p) => p.rights = .empty ∧ p.entitlement = 0
  | _ => True

instance (g : Game) : (a : Act) → Decidable (a.Plain g)
  | .deal (.addPlayer p) => inferInstanceAs (Decidable (p.rights = .empty ∧ p.entitlement = 0))
  | .deal (.addParcel _) => .isTrue trivial
  | .deal (.build _ _ _ _) => .isTrue trivial
  | .deal (.transferWater _ _) => .isTrue trivial
  | .deal (.transferDevelopment _ _) => .isTrue trivial
  | .setRound _ => .isTrue trivial
  | .credit _ _ => .isTrue trivial
  | .reset => .isTrue trivial
  | .distribute _ _ => .isTrue trivial
  | .change _ _ _ => .isTrue trivial

namespace Game

theorem after_rightful {g : Game} {a : Act} (ha : a.Plain g) (hg : Rightful g) :
    Rightful (g.after a) := by
  by_cases hc : a.Conveys
  · refine after_of hg fun g' h => ?_
    cases a with
    | deal d =>
      cases d with
      | addPlayer p => exact addPlayer_rightful hg ha.1 ha.2 (toOption_eq_some.mp h)
      | addParcel q => exact (addParcel_eq_ok (toOption_eq_some.mp h)).rightful hg
      | build id player parcel b => cases hc
      | transferWater parcel taker =>
        obtain ⟨m, hm, rfl⟩ := toOption_map_eq_some.mp h
        obtain ⟨q, hq, _, ⟨_, rfl⟩ | ⟨_, ht⟩⟩ := transferWater_eq_ok hm
        · exact hg
        · exact ht.rightful hg hq
      | transferDevelopment parcel taker =>
        obtain ⟨m, hm, rfl⟩ := toOption_map_eq_some.mp h
        exact transferDevelopment_rightful hg hm
    | setRound round => cases hc
    | credit player amount => cases hc
    | reset => cases hc
    | distribute d water => cases hc
    | change asset player n => cases hc
  · exact hg.of_sameTitles (after_sameTitles hc)

theorem Rightful.run {g g' : Game} (hg : Rightful g) (h : Run (fun g a => a.Plain g) g g') :
    Rightful g' :=
  h.invariant (fun _ _ ha hg => after_rightful ha hg) hg

theorem foldlM_add? (cs : List Count) (c : Count) :
    cs.foldlM Count.add? c = Count.ofNat? (c.val + Count.total cs) := by
  induction cs generalizing c with
  | nil => exact (Count.ofNat?_eq_some.mpr rfl).symm
  | cons d cs ih =>
    rw [List.foldlM_cons, Count.total, ← Nat.add_assoc]
    cases ha : Count.add? c d with
    | some sum => rw [Option.bind_eq_bind, Option.bind_some, ih, Count.add?_eq_some.mp ha]
    | none =>
      have hge := Count.ofNat?_eq_none.mp ha
      exact (Count.ofNat?_eq_none.mpr (Nat.le_trans hge (Nat.le_add_right _ _))).symm

theorem totalEntitlement?_eq_foldlM (b : Board) :
    b.totalEntitlement? = b.demand.foldlM Count.add? 0 := by
  rw [foldlM_add?, Count.val_zero, Nat.zero_add]
  rfl

def allRights (g : Game) : Nat := g.parcels.sum fun q => q.rights.val

theorem Rightful.total_by_owner {g : Game} (hg : Rightful g) {share : Player → Count}
    {part : Parcel → Count} (h : ∀ p ∈ g.players.toList, (share p).val =
      g.parcels.sum fun q => if q.waterOwner = some p.id then (part q).val else 0) :
    Count.total (g.players.toList.map share) + Count.total (g.toBoard.unowned.map part) =
      g.parcels.sum fun q => (part q).val :=
  Board.total_by_owner hg.waterOwner h

theorem Rightful.total_demand {g : Game} (hg : Rightful g) :
    Count.total g.toBoard.demand = g.allRights := by
  rw [Board.demand, Count.total_append]
  exact hg.total_by_owner hg.entitlement

end Game

def Act.Trade : Act → Prop
  | .deal (.transferWater _ _) => True
  | .deal (.transferDevelopment _ _) => True
  | _ => False

namespace Game

theorem trade_allRights {g : Game} {a : Act} (ha : a.Trade) :
    (g.after a).allRights = g.allRights := by
  refine after_of (P := fun g' => g'.allRights = g.allRights) rfl fun g' h => ?_
  cases a with
  | deal d =>
    cases d with
    | transferWater parcel taker =>
      obtain ⟨m, hm, rfl⟩ := toOption_map_eq_some.mp h
      obtain ⟨q, hq, _, ⟨_, rfl⟩ | ⟨_, ht⟩⟩ := transferWater_eq_ok hm
      · rfl
      · rw [allRights, ht.parcels]
        exact Roll.sum_put_same hq rfl rfl
    | transferDevelopment parcel taker =>
      obtain ⟨m, hm, rfl⟩ := toOption_map_eq_some.mp h
      obtain ⟨_, q, hq, hm⟩ := transferDevelopment_eq_ok hm
      rw [← hm]
      exact Roll.sum_put_same hq rfl rfl
    | addPlayer p => cases ha
    | addParcel q => cases ha
    | build id player parcel b => cases ha
  | setRound round => cases ha
  | credit player amount => cases ha
  | reset => cases ha
  | distribute d water => cases ha
  | change asset player n => cases ha

theorem trades_rightful {g : Game} (hg : Rightful g) {acts : List Act} (h : ∀ a ∈ acts, a.Trade) :
    Rightful (g.afterAll acts) ∧ (g.afterAll acts).allRights = g.allRights := by
  induction acts generalizing g with
  | nil => exact ⟨hg, rfl⟩
  | cons a acts ih =>
    obtain ⟨ha, h⟩ := List.forall_mem_cons.mp h
    have hplain : a.Plain g := by
      cases a with
      | deal d => cases d <;> first | exact trivial | cases ha
      | setRound round => exact trivial
      | credit player amount => exact trivial
      | reset => exact trivial
      | distribute d water => exact trivial
      | change asset player n => exact trivial
    obtain ⟨hr, hs⟩ := ih (after_rightful hplain hg) h
    exact ⟨hr, hs.trans (trade_allRights ha)⟩

theorem Rightful.rights_le {g : Game} (hg : Rightful g) {q : Parcel} (hq : q ∈ g.parcels.toList)
    {p : Player} (hp : p ∈ g.players.toList) (ho : q.waterOwner = some p.id) :
    q.rights.val ≤ p.entitlement.val := by
  have hle := Roll.le_sum hq (f := fun q => if q.waterOwner = some p.id then q.rights.val else 0)
  rw [if_pos ho] at hle
  rw [hg.entitlement p hp]
  exact hle

theorem Rightful.eachOf_withoutRights {g : Game} (hg : Rightful g) {q : Parcel}
    (hq : q ∈ g.parcels.toList) : ∃ l, eachOf (g.withoutRights · q) q.waterOwner = .ok l := by
  cases ho : q.waterOwner with
  | none => exact ⟨[], rfl⟩
  | some id =>
    obtain ⟨p, hp, rfl⟩ := hg.waterOwner q hq id ho
    have hle := hg.rights_le hq hp ho
    have he : q.rights.val + (p.entitlement.subDownTo q.rights).val = p.entitlement.val := by
      rw [Count.val_subDownTo]
      omega
    have hs := withoutRights_eq_ok.mpr ⟨p, hp, rfl, _, he, rfl⟩
    exact ⟨_, eachOf_eq_ok.mpr (Or.inr ⟨_, _, rfl, hs, rfl⟩)⟩

theorem withRights_eq_error {g : Game} {p : Player} (hp : p ∈ g.players.toList) {q : Parcel}
    {e : GameFault} :
    g.withRights p.id q = .error e ↔ e = .overflow ∧
      (18446744073709551616 ≤ p.entitlement.val + q.rights.val ∨
        18446744073709551616 ≤ p.water.val + q.water.val) := by
  have hf : g.findPlayer p.id = .ok p := findPlayer_eq_ok.mpr ⟨hp, rfl⟩
  have he : p.entitlement.add? q.rights = none ↔ 18446744073709551616 ≤ p.entitlement.val + q.rights.val :=
    Count.ofNat?_eq_none
  have hw : p.water.add? q.water = none ↔ 18446744073709551616 ≤ p.water.val + q.water.val :=
    Count.ofNat?_eq_none
  rw [withRights, bind_eq_error, ← he, ← hw]
  simp only [hf, reduceCtorEq, Except.ok.injEq, false_or, exists_eq_left']
  cases p.entitlement.add? q.rights <;> cases p.water.add? q.water <;> simp [eq_comm]

theorem Rightful.transferWater_eq_error {g : Game} (hg : Rightful g) {q : Parcel}
    (hq : q ∈ g.parcels.toList) {taker : Option PlayerId} (ht : ∀ id, taker = some id → g.Known id)
    {e : GameFault} :
    g.transferWater q.id taker = .error e ↔ e = .overflow ∧ q.waterOwner ≠ taker ∧
      ∃ p ∈ g.players.toList, taker = some p.id ∧
        (18446744073709551616 ≤ p.entitlement.val + q.rights.val ∨
          18446744073709551616 ≤ p.water.val + q.water.val) := by
  have hf : g.findParcel q.id = .ok q := findParcel_eq_ok.mpr ⟨hq, rfl⟩
  obtain ⟨sellers, hs⟩ := hg.eachOf_withoutRights hq
  have hopen : g.transferWater q.id taker = .error e ↔
      q.waterOwner ≠ taker ∧ eachOf (g.withRights · q) taker = .error e := by
    by_cases ho : q.waterOwner = taker
    · simp [transferWater, hf, ho]
    · simp [transferWater, hf, hs, bind_eq_error, ho]
  rw [hopen]
  cases taker with
  | none => simp [eachOf]
  | some id =>
    obtain ⟨p, hp, rfl⟩ := ht id rfl
    rw [eachOf, map_eq_error, withRights_eq_error hp]
    constructor
    · rintro ⟨ho, he, hlarge⟩
      exact ⟨he, ho, p, hp, rfl, hlarge⟩
    · rintro ⟨he, ho, p', hp', hid, hlarge⟩
      obtain rfl := Roll.eq_of_key hp' hp (Option.some.inj hid).symm
      exact ⟨ho, he, hlarge⟩

theorem ownership_consistent {g : Game} (hg : Run (fun g a => a.Plain g) .empty g) :
    (∀ p ∈ g.players.toList, ∀ id, id ∈ p.rights.toList ↔
      ∃ q ∈ g.parcels.toList, q.id = id ∧ q.waterOwner = some p.id) ∧
    (∀ q ∈ g.parcels.toList, ∀ id, q.waterOwner = some id ∨ q.developer = some id →
      ∃ p ∈ g.players.toList, p.id = id) ∧
    (∀ p ∈ g.players.toList, p.entitlement.val =
      Count.total ((g.parcels.toList.filter (·.waterOwner = some p.id)).map (·.rights))) ∧
    g.toBoard.totalEntitlement? = Count.ofNat? (Count.total (g.parcels.toList.map (·.rights))) ∧
    (∀ trades : List Act, (∀ a ∈ trades, a.Trade) →
      (g.afterAll trades).toBoard.totalEntitlement? = g.toBoard.totalEntitlement?) ∧
    ∀ q ∈ g.parcels.toList, ∀ taker, (∀ id, taker = some id → ∃ p ∈ g.players.toList, p.id = id) →
      ∀ e, g.transferWater q.id taker = .error e ↔ e = .overflow ∧ q.waterOwner ≠ taker ∧
        ∃ p ∈ g.players.toList, taker = some p.id ∧
          (18446744073709551616 ≤ p.entitlement.val + q.rights.val ∨
            18446744073709551616 ≤ p.water.val + q.water.val) := by
  have hr : Rightful g := rightful_empty.run hg
  refine ⟨hr.rights, fun q hq id ho => ?_, fun p hp => ?_, ?_, fun trades ht => ?_,
    fun q hq taker ht e => hr.transferWater_eq_error hq ht⟩
  · rcases ho with ho | ho
    · exact hr.waterOwner q hq id ho
    · exact hr.developer q hq id ho
  · rw [hr.entitlement p hp, Roll.total_filter]
    simp only [rightsOf, decide_eq_true_eq]
  · rw [Board.totalEntitlement?, hr.total_demand, Roll.total_map]
    rfl
  · obtain ⟨hr', hsame⟩ := trades_rightful hr ht
    rw [Board.totalEntitlement?, Board.totalEntitlement?, hr'.total_demand, hr.total_demand, hsame]

open Sample in
theorem meadow_sold_consistently :
    (afterAll .empty (settling ++ milling ++ [.deal (.transferWater meadow.id (some miller.id))])
      ).toBoard.totalEntitlement? = some (.clamp 16) := by
  have hr : Run (fun g a => a.Plain g) .empty
      (afterAll .empty (settling ++ milling ++ [.deal (.transferWater meadow.id (some miller.id))])) :=
    .afterAll (by decide +kernel)
  exact (ownership_consistent hr).2.2.2.1.trans (by decide +kernel)

end Game
end Watershed
