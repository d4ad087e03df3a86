import Watershed.Proofs.Game.Criterion
import Watershed.Proofs.Game.Independence
import Watershed.Proofs.Season.Spending
import Watershed.Proofs.Season.Wants
import Watershed.Season.Turns

namespace Watershed

def portion (w : Count) (a : Asset) : Count :=
  if a.usage ≤ w then a.usage else if a.divisible then w else 0

theorem portion_enough {w : Count} {a : Asset} (h : a.usage ≤ w) : portion w a = a.usage := if_pos h

theorem portion_part {w : Count} {a : Asset} (h : w < a.usage) (hd : a.divisible = true) :
    portion w a = w := by
  have hle : ¬ a.usage ≤ w := Nat.not_le.mpr h
  rw [portion, if_neg hle, if_pos hd]

theorem portion_nothing {w : Count} {a : Asset} (h : w < a.usage) (hd : a.divisible = false) :
    portion w a = 0 := by
  have hle : ¬ a.usage ≤ w := Nat.not_le.mpr h
  rw [portion, if_neg hle, hd]
  rfl

def courses : Count → List Asset → List (Asset × Count)
  | _, [] => []
  | w, a :: l => (a, w) :: courses (w.subDownTo (portion w a)) l

def leftOver (w : Count) (l : List Asset) : Count :=
  l.foldl (fun w a => w.subDownTo (portion w a)) w

def served (x : Asset × Count) : Asset := { x.1 with allocated := portion x.2 x.1 }

def unserved (x : Asset × Count) : Bool := !x.1.divisible && decide (x.2 < x.1.usage)

theorem unserved_iff {x : Asset × Count} :
    unserved x = true ↔ x.2 < x.1.usage ∧ x.1.divisible = false := by
  simp [unserved, and_comm]

theorem unserved_enough {w : Count} {a : Asset} (h : a.usage ≤ w) : unserved (a, w) = false := by
  rw [← Bool.not_eq_true, unserved_iff]
  exact fun hu => Nat.not_lt.mpr h hu.1

theorem unserved_part {w : Count} {a : Asset} (hd : a.divisible = true) :
    unserved (a, w) = false := by
  rw [← Bool.not_eq_true, unserved_iff, hd]
  exact fun hu => by cases hu.2

theorem courses_concat (w : Count) (l : List Asset) (a : Asset) :
    courses w (l ++ [a]) = courses w l ++ [(a, leftOver w l)] := by
  induction l generalizing w with
  | nil => rfl
  | cons b l ih =>
    simp only [List.cons_append, courses, ih]
    rfl

theorem leftOver_concat (w : Count) (l : List Asset) (a : Asset) :
    leftOver w (l ++ [a]) = (leftOver w l).subDownTo (portion (leftOver w l) a) := by
  rw [leftOver, List.foldl_append]
  rfl

theorem fst_courses (w : Count) (l : List Asset) : (courses w l).map (·.1) = l := by
  induction l generalizing w with
  | nil => rfl
  | cons a l ih => simp only [courses, List.map_cons, ih]

theorem toNat_saturated (n : Nat) : (saturated n).toNat = min n 4294967295 := by
  rw [saturated, UInt32.toNat_ofNat']
  exact Nat.mod_eq_of_lt (by omega)

theorem saturated_eq {m n : Nat} (h : min m 4294967295 = min n 4294967295) :
    saturated m = saturated n := by
  rw [saturated, h, saturated]

theorem saturated_toNat (n : UInt32) : saturated n.toNat = n := by
  have hlt : n.toNat < 4294967296 := n.toNat_lt
  rw [saturated, Nat.min_eq_left (by omega), UInt32.ofNat_toNat]

theorem saturated_step (n : Nat) : saturated ((saturated n).toNat + 1) = saturated (n + 1) := by
  rw [toNat_saturated]
  exact saturated_eq (by omega)

def Tally.upTo (accepted rejected : Nat) : Tally := ⟨saturated accepted, saturated rejected⟩

theorem Tally.count_upTo (accepted rejected : Nat) (got : Bool) :
    (upTo accepted rejected).count got =
      upTo (accepted + if got then 1 else 0) (rejected + if got then 0 else 1) := by
  cases got
  · exact congrArg (Tally.mk _) (saturated_step rejected)
  · exact congrArg (fun n => Tally.mk n _) (saturated_step accepted)

/-- What a player has reached, by what the player sees of the game: some assets are served in order,
the others have no water yet, and a part is asked for only where the water is not enough. -/
structure Errand.Underway (done : List Asset) (p : Player) (v : View) (e : Errand) : Prop where
  player : v.player = some { p with water := leftOver p.water done }
  assets : ∀ a, a ∈ v.assets.toList ↔ a ∈ (courses p.water done).map served ++ e.wants
  idle : ∀ a ∈ e.wants, a.allocated = 0
  nodup : ((done ++ e.wants).map (·.id)).Nodup
  tally : e.tally = .upTo ((courses p.water done).countP fun x => !unserved x)
    ((courses p.water done).countP unserved)
  short : e.next ≠ .whole → ∃ a rest, e.wants = a :: rest ∧ a.divisible = true ∧
    leftOver p.water done < a.usage
  part : ∀ n, e.next = .part n → n = leftOver p.water done

theorem Errand.wants_settle {e : Errand} {a : Asset} {rest : List Asset} (hw : e.wants = a :: rest)
    (got : Bool) : (e.settle got).wants = rest := by rw [settle, hw, List.tail_cons]

namespace Errand.Underway

variable {done : List Asset} {p : Player} {v v' : View} {e : Errand} {a : Asset} {rest : List Asset}

theorem apart (h : Underway done p v e) (hw : e.wants = a :: rest) :
    (∀ b ∈ (courses p.water done).map served, b.id ≠ a.id) ∧ ∀ b ∈ rest, b.id ≠ a.id := by
  have hnodup := h.nodup
  rw [hw, List.map_append, List.map_cons, List.nodup_append, List.nodup_cons] at hnodup
  obtain ⟨_, ⟨hlater, _⟩, hapart⟩ := hnodup
  refine ⟨fun b hb => ?_, fun b hb hid => hlater (hid ▸ List.mem_map_of_mem hb)⟩
  obtain ⟨x, hx, rfl⟩ := List.mem_map.mp hb
  have hx : x.1 ∈ done := by
    rw [← fst_courses p.water done]
    exact List.mem_map_of_mem hx
  exact hapart _ (List.mem_map_of_mem hx) _ List.mem_cons_self

theorem settle (h : Underway done p v e) (hw : e.wants = a :: rest) {got : Bool}
    (hplayer : v'.player = some { p with
      water := (leftOver p.water done).subDownTo (portion (leftOver p.water done) a) })
    (hassets : ∀ b, b ∈ v'.assets.toList ↔
      b = served (a, leftOver p.water done) ∨ (b ∈ v.assets.toList ∧ b.id ≠ a.id))
    (hgot : got = !unserved (a, leftOver p.water done)) :
    Underway (done ++ [a]) p v' (e.settle got) := by
  have hrest := wants_settle hw got
  obtain ⟨hearlier, hlater⟩ := h.apart hw
  refine ⟨?_, fun b => ?_, ?_, ?_, ?_, fun hn => absurd rfl hn, fun n hn => by cases hn⟩
  · rw [hplayer, leftOver_concat]
  · rw [hassets, h.assets, hrest, hw, courses_concat, List.map_append]
    simp only [List.mem_append, List.mem_cons, List.map_cons, List.map_nil, List.not_mem_nil, or_false]
    constructor
    · rintro (rfl | ⟨hb | rfl | hb, hne⟩)
      · exact Or.inl (Or.inr rfl)
      · exact Or.inl (Or.inl hb)
      · exact absurd rfl hne
      · exact Or.inr hb
    · rintro ((hb | rfl) | hb)
      · exact Or.inr ⟨Or.inl hb, hearlier b hb⟩
      · exact Or.inl rfl
      · exact Or.inr ⟨Or.inr (Or.inr hb), hlater b hb⟩
  · rw [hrest]
    exact fun b hb => h.idle b (hw ▸ List.mem_cons_of_mem a hb)
  · rw [hrest, List.append_assoc, List.singleton_append, ← hw]
    exact h.nodup
  · rw [Errand.settle, h.tally, Tally.count_upTo, courses_concat, List.countP_append,
      List.countP_append, List.countP_singleton, List.countP_singleton, hgot]
    cases unserved (a, leftOver p.water done) <;> rfl

theorem wait (h : Underway done p v e) (hw : e.wants = a :: rest) (hd : a.divisible = true)
    (hlt : leftOver p.water done < a.usage) {next : Asking}
    (hpart : ∀ n, next = .part n → n = leftOver p.water done) :
    Underway done p v { e with next := next } :=
  { h with
    short := fun _ => ⟨a, rest, hw, hd, hlt⟩
    part := hpart }

variable {s : Season}

theorem present (h : Underway done p (s.game.view p.id) e) (hw : e.wants = a :: rest) :
    { p with water := leftOver p.water done } ∈ s.game.players.toList ∧
      a ∈ s.game.assets.toList ∧ a.owner = p.id ∧ a.allocated = 0 := by
  have ha : a ∈ (s.game.view p.id).assets.toList := by
    rw [h.assets, hw]
    exact List.mem_append_right _ List.mem_cons_self
  obtain ⟨ha, ho⟩ := Roll.mem_filter.mp ha
  refine ⟨Roll.mem_of_find? h.player, ha, of_decide_eq_true ho, h.idle a ?_⟩
  rw [hw]
  exact List.mem_cons_self

theorem grant (h : Underway done p (s.game.view p.id) e) (hw : e.wants = a :: rest) {m : Move Change}
    {n : Count} (hn : portion (leftOver p.water done) a = n)
    (hplayers : m.game.players =
      s.game.players.put { p with water := (leftOver p.water done).subDownTo n })
    (hassets : m.game.assets = s.game.assets.put { a with allocated := n })
    (hgot : unserved (a, leftOver p.water done) = false) :
    Underway (done ++ [a]) p (m.game.view p.id) (e.settle true) := by
  subst hn
  have hserved : m.game.assets = s.game.assets.put (served (a, leftOver p.water done)) := hassets
  obtain ⟨_, _, ho, _⟩ := h.present hw
  refine h.settle hw ?_ (fun b => ?_) (by rw [hgot]; rfl)
  · show m.game.players.find? p.id = _
    rw [hplayers]
    exact Roll.find?_put_self s.game.players _
  · simp only [Game.view, hserved, Roll.mem_filter, Roll.mem_put, decide_eq_true_eq]
    constructor
    · rintro ⟨rfl | ⟨hb, hid⟩, hown⟩
      · exact Or.inl rfl
      · exact Or.inr ⟨⟨hb, hown⟩, hid⟩
    · rintro (rfl | ⟨⟨hb, hown⟩, hid⟩)
      · exact ⟨Or.inl rfl, ho⟩
      · exact ⟨Or.inr ⟨hb, hid⟩, hown⟩

theorem refuse (h : Underway done p (s.game.view p.id) e) (hw : e.wants = a :: rest)
    (hgot : unserved (a, leftOver p.water done) = true) :
    Underway (done ++ [a]) p (s.game.view p.id) (e.settle false) := by
  obtain ⟨_, ha, ho, hidle⟩ := h.present hw
  have hportion : portion (leftOver p.water done) a = 0 :=
    portion_nothing (unserved_iff.mp hgot).1 (unserved_iff.mp hgot).2
  have hsame : served (a, leftOver p.water done) = a := by
    rw [served, hportion, ← hidle]
  refine h.settle hw ?_ (fun b => ?_) (by rw [hgot]; rfl)
  · rw [h.player, hportion]
    exact congrArg some (congrArg (fun w => { p with water := w }) (Count.ext rfl))
  · rw [hsame]
    simp only [Game.view, Roll.mem_filter, decide_eq_true_eq]
    constructor
    · rintro ⟨hb, hown⟩
      by_cases hid : b.id = a.id
      · exact Or.inl (Roll.eq_of_key hb ha hid)
      · exact Or.inr ⟨⟨hb, hown⟩, hid⟩
    · rintro (rfl | ⟨hb, _⟩)
      · exact ⟨ha, ho⟩
      · exact hb

end Errand.Underway

namespace Season

theorem changeAtDesk_eq {s : Season} (h : s.accepting = true) (asset : AssetId) (player : PlayerId)
    (n : Count) : s.changeAtDesk asset player n =
      match s.game.changeAllocation asset player n with
      | .ok m => ⟨{ s with game := m.game }, m.notices, [], .ok m.result⟩
      | .error e => ⟨s, [], [], .error (.allocation e)⟩ := by
  rw [changeAtDesk, if_pos h]
  cases s.game.changeAllocation asset player n <;> rfl

theorem waterLeft_eq {s : Season} {id : PlayerId} {p : Player}
    (h : s.game.players.find? id = some p) : s.waterLeft id = p.water := by
  rw [waterLeft, h]

end Season

namespace Errand

open Season

variable {done : List Asset} {p : Player} {e : Errand} {s : Season} {a : Asset} {rest : List Asset}

theorem step_nil (h : e.wants = []) (q : PlayerId) : e.step s q = (s, e) := by
  unfold step
  rw [h]

section

variable {q : PlayerId} (hw : e.wants = a :: rest)
  (ha : s.accepting = true)
include hw

theorem step_look (hn : e.next = .look) :
    e.step s q = (s, { e with next := .part (min (s.waterLeft q) a.usage) }) := by
  obtain ⟨wants, next, tally⟩ := e
  cases hw
  cases hn
  rfl

include ha

theorem step_granted (hn : e.next = .whole) {m : Move Change}
    (hm : s.game.changeAllocation a.id q a.usage = .ok m) :
    e.step s q = ({ s with game := m.game }, e.settle true) := by
  obtain ⟨wants, next, tally⟩ := e
  cases hw
  cases hn
  simp [Errand.step, changeAtDesk_eq ha, hm, succeeded]

theorem step_short (hn : e.next = .whole) (hd : a.divisible = true) {f : AllocationFault}
    (hm : s.game.changeAllocation a.id q a.usage = .error f) :
    e.step s q = (s, { e with next := .look }) := by
  obtain ⟨wants, next, tally⟩ := e
  cases hw
  cases hn
  simp [Errand.step, changeAtDesk_eq ha, hm, hd, succeeded]

theorem step_refused (hn : e.next = .whole) (hd : a.divisible = false) {f : AllocationFault}
    (hm : s.game.changeAllocation a.id q a.usage = .error f) :
    e.step s q = (s, e.settle false) := by
  obtain ⟨wants, next, tally⟩ := e
  cases hw
  cases hn
  simp [Errand.step, changeAtDesk_eq ha, hm, hd, succeeded]

theorem step_part {n : Count} (hn : e.next = .part n) {m : Move Change}
    (hm : s.game.changeAllocation a.id q n = .ok m) :
    e.step s q = ({ s with game := m.game }, e.settle true) := by
  obtain ⟨wants, next, tally⟩ := e
  cases hw
  cases hn
  simp [Errand.step, changeAtDesk_eq ha, hm, succeeded]

end

theorem settle_append (hw : e.wants = a :: rest) (done : List Asset) (got : Bool) :
    (done ++ [a]) ++ (e.settle got).wants = done ++ e.wants := by
  rw [wants_settle hw, hw, List.append_assoc, List.singleton_append]

def Advanced (done : List Asset) (p : Player) (e : Errand) (x : Season × Errand) : Prop :=
  ∃ done', Underway done' p (x.1.game.view p.id) x.2 ∧ done' ++ x.2.wants = done ++ e.wants

section

variable (ha : s.accepting = true) (hs : s.game.Spendable)
  (h : Underway done p (s.game.view p.id) e) (hw : e.wants = a :: rest)
include ha hs h hw

theorem Underway.step_whole (hn : e.next = .whole) : Advanced done p e (e.step s p.id) := by
  obtain ⟨hp, hasset, ho, hidle⟩ := h.present hw
  rcases hs.water_idle hasset hp ho hidle (Nat.le_refl _) (Or.inr (Or.inr rfl)) with
    ⟨hle, m, hm, hplayers, hassets⟩ | ⟨hlt, f, hm⟩
  · rw [step_granted hw ha hn hm]
    exact ⟨done ++ [a], h.grant hw (portion_enough hle) hplayers hassets (unserved_enough hle),
      settle_append hw done true⟩
  · cases hd : a.divisible with
    | true =>
      rw [step_short hw ha hn hd hm]
      exact ⟨done, h.wait hw hd hlt (fun n hn => by cases hn), rfl⟩
    | false =>
      rw [step_refused hw ha hn hd hm]
      exact ⟨done ++ [a], h.refuse hw (unserved_iff.mpr ⟨hlt, hd⟩), settle_append hw done false⟩

omit ha hs in
theorem Underway.step_look (hn : e.next = .look) : Advanced done p e (e.step s p.id) := by
  obtain ⟨a', rest', hw', hd, hlt⟩ := h.short (by simp [hn])
  obtain ⟨rfl, rfl⟩ := List.cons.inj (hw.symm.trans hw')
  have hmin : min (s.waterLeft p.id) a.usage = leftOver p.water done := by
    have hleft : s.waterLeft p.id = leftOver p.water done := waterLeft_eq h.player
    have hlt : (leftOver p.water done).val < a.usage.val := hlt
    refine Count.ext ?_
    rw [hleft, Count.val_min]
    omega
  rw [Errand.step_look hw hn, hmin]
  exact ⟨done, h.wait hw hd hlt (fun n hn => (Asking.part.inj hn).symm), rfl⟩

theorem Underway.step_part {n : Count} (hn : e.next = .part n) :
    Advanced done p e (e.step s p.id) := by
  obtain ⟨hp, hasset, ho, hidle⟩ := h.present hw
  obtain ⟨a', rest', hw', hd, hlt⟩ := h.short (by simp [hn])
  obtain ⟨rfl, rfl⟩ := List.cons.inj (hw.symm.trans hw')
  obtain rfl := h.part n hn
  rcases hs.water_idle hasset hp ho hidle (Nat.le_of_lt hlt) (Or.inl hd) with
    ⟨_, m, hm, hplayers, hassets⟩ | ⟨hless, _⟩
  · rw [Errand.step_part hw ha hn hm]
    exact ⟨done ++ [a], h.grant hw (portion_part hlt hd) hplayers hassets (unserved_part hd),
      settle_append hw done true⟩
  · exact absurd hless (Nat.lt_irrefl _)

end

theorem Underway.step (ha : s.accepting = true) (hs : s.game.Spendable)
    (h : Underway done p (s.game.view p.id) e) : Advanced done p e (e.step s p.id) := by
  cases hw : e.wants with
  | nil =>
    rw [step_nil hw]
    exact ⟨done, h, rfl⟩
  | cons a rest =>
    cases hn : e.next with
    | whole => exact h.step_whole ha hs hw hn
    | look => exact h.step_look hw hn
    | part n => exact h.step_part ha hs hw hn

end Errand
end Watershed
