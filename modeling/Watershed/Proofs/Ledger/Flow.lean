import Watershed.Ledger.Audit
import Watershed.Proofs.Ledger.Record
import Watershed.Proofs.Roll.Sum

namespace Watershed

@[simp] theorem Side.parcel_inj {p q : ParcelId} : Side.parcel p = Side.parcel q ↔ p = q := by
  cases p; cases q; simp [Side.parcel]

@[simp] theorem Side.asset_inj {a b : AssetId} : Side.asset a = Side.asset b ↔ a = b := by
  cases a; cases b; simp [Side.asset]

@[simp] theorem Side.parcel_ne_asset {p : ParcelId} {a : AssetId} :
    Side.parcel p ≠ Side.asset a := by
  simp [Side.parcel, Side.asset]

@[simp] theorem Side.asset_ne_parcel {a : AssetId} {p : ParcelId} :
    Side.asset a ≠ Side.parcel p := by
  simp [Side.parcel, Side.asset]

theorem Side.Fits.holds_iff {s : Side} {p : Party} (h : s.Fits p) : s.holds = true ↔ p.Holds := by
  simp [Side.holds, h.1]

theorem Side.Fits.entity_iff {s : Side} {p : Party} (h : s.Fits p) (u : Uuid) :
    s.entity = some u ↔ s = .parcel ⟨u⟩ ∨ s = .asset ⟨u⟩ := by
  obtain ⟨party, entity⟩ := s
  obtain ⟨rfl, he⟩ := h
  have hn : ¬ p.Holds → entity = none := fun hp => by
    rwa [← he, Option.not_isSome_iff_eq_none] at hp
  cases p <;> simp_all [Side.parcel, Side.asset, Party.Holds]

theorem Side.Fits.entity_split {s : Side} {p : Party} (h : s.Fits p) (n : Nat) (u : Uuid) :
    (if s.entity = some u then n else 0) =
      (if s = .parcel ⟨u⟩ then n else 0) + if s = .asset ⟨u⟩ then n else 0 := by
  by_cases hp : s = .parcel ⟨u⟩
  · rw [if_pos ((h.entity_iff u).mpr (Or.inl hp)), if_pos hp, if_neg (hp ▸ Side.parcel_ne_asset)]
    rfl
  · by_cases ha : s = .asset ⟨u⟩
    · rw [if_pos ((h.entity_iff u).mpr (Or.inr ha)), if_neg hp, if_pos ha, Nat.zero_add]
    · rw [if_neg (fun e => ((h.entity_iff u).mp e).elim hp ha), if_neg hp, if_neg ha]

namespace Entry

def arriving (s : Side) (e : Entry) : Nat := if e.target = s then e.quantity.val else 0

def leaving (s : Side) (e : Entry) : Nat := if e.source = s then e.quantity.val else 0

end Entry

namespace Ledger

def received (es : List Entry) (s : Side) : Nat := (es.map (·.arriving s)).sum

def given (es : List Entry) (s : Side) : Nat := (es.map (·.leaving s)).sum

@[simp] theorem received_nil (s : Side) : received [] s = 0 := rfl

@[simp] theorem given_nil (s : Side) : given [] s = 0 := rfl

theorem received_append (es es' : List Entry) (s : Side) :
    received (es ++ es') s = received es s + received es' s := by
  simp [received]

theorem given_append (es es' : List Entry) (s : Side) :
    given (es ++ es') s = given es s + given es' s := by
  simp [given]

theorem quantitySum_cons (e : Entry) (es : List Entry) :
    quantitySum (e :: es) = e.quantity.val + quantitySum es := rfl

theorem quantitySum_append (es es' : List Entry) :
    quantitySum (es ++ es') = quantitySum es + quantitySum es' := by
  rw [quantitySum, List.map_append, Count.total_append]
  rfl

theorem quantitySum_filter_le (p : Entry → Bool) (es : List Entry) :
    quantitySum (es.filter p) ≤ quantitySum es := by
  induction es with
  | nil => exact Nat.le_refl _
  | cons e es ih =>
    rw [List.filter_cons]
    split <;> simp only [quantitySum_cons] <;> omega

theorem quantitySum_le (es : List Entry) :
    quantitySum es ≤ es.length * 18446744073709551615 := by
  induction es with
  | nil => exact Nat.le_refl _
  | cons e es ih =>
    have he := e.quantity.val_lt
    rw [quantitySum_cons, List.length_cons]
    omega

theorem foldl_balanceStep (u : Uuid) (es : List Entry) {b : Int}
    (hlow : -signedBound ≤ b - quantitySum es) (hhigh : b + quantitySum es < signedBound) :
    es.foldl (balanceStep u) b =
      b + (es.map fun e => if e.target.entity = some u then e.quantity.val else 0).sum -
        (es.map fun e => if e.source.entity = some u then e.quantity.val else 0).sum := by
  induction es generalizing b with
  | nil => simp
  | cons e es ih =>
    rw [quantitySum_cons] at hlow hhigh
    have hstep : balanceStep u b e =
        b + (if e.target.entity = some u then e.quantity.val else 0 : Nat) -
          (if e.source.entity = some u then e.quantity.val else 0 : Nat) := by
      simp only [balanceStep, clampSigned]
      split <;> split <;> omega
    rw [List.foldl_cons, hstep, ih, List.map_cons, List.map_cons, List.sum_cons, List.sum_cons]
    · omega
    · split <;> split <;> omega
    · split <;> split <;> omega

theorem balanceOf_eq {l : Ledger} (hw : ∀ e ∈ l.entries, e.WellFormed)
    (hl : l.entries.length < 2 ^ 62) (u : Uuid) :
    l.balanceOf u + (given l.entries (.parcel ⟨u⟩) + given l.entries (.asset ⟨u⟩)) =
      received l.entries (.parcel ⟨u⟩) + received l.entries (.asset ⟨u⟩) := by
  have hq := quantitySum_le l.entries
  have hb := foldl_balanceStep u l.entries (b := 0)
    (by simp only [signedBound]; omega) (by simp only [signedBound]; omega)
  have hin : (l.entries.map fun e => if e.target.entity = some u then e.quantity.val else 0).sum =
      received l.entries (.parcel ⟨u⟩) + received l.entries (.asset ⟨u⟩) := by
    rw [received, received, ← List.sum_map_add]
    exact congrArg List.sum (List.map_congr_left fun e he => (hw e he).target.entity_split _ u)
  have hout : (l.entries.map fun e => if e.source.entity = some u then e.quantity.val else 0).sum =
      given l.entries (.parcel ⟨u⟩) + given l.entries (.asset ⟨u⟩) := by
    rw [given, given, ← List.sum_map_add]
    exact congrArg List.sum (List.map_congr_left fun e he => (hw e he).source.entity_split _ u)
  rw [hin, hout] at hb
  rw [balanceOf, hb]
  omega

theorem ofRound_appendAll {l : Ledger} {es : List Entry} {round : Count}
    (h : ∀ e ∈ es, e.round = round) : (l.appendAll es).ofRound round = l.ofRound round ++ es := by
  rw [ofRound, entries_appendAll, List.filter_append, ofRound,
    List.filter_eq_self.mpr fun e he => decide_eq_true (h e he)]

theorem ofRound_eq_nil {l : Ledger} {round : Count} (h : ∀ e ∈ l.entries, e.round ≠ round) :
    l.ofRound round = [] :=
  List.filter_eq_nil_iff.mpr fun e he => by simpa using h e he

def rained (es : List Entry) : Nat := quantitySum (es.filter (·.kind = .rainfall))

def drained (es : List Entry) : Nat := quantitySum (es.filter (·.kind.sink))

theorem rained_append (es es' : List Entry) : rained (es ++ es') = rained es + rained es' := by
  rw [rained, List.filter_append, quantitySum_append]
  rfl

theorem drained_append (es es' : List Entry) : drained (es ++ es') = drained es + drained es' := by
  rw [drained, List.filter_append, quantitySum_append]
  rfl

def enteredAs (kind : EntryKind) (es : List Entry) : Nat := quantitySum (es.filter (·.kind = kind))

theorem enteredAs_append (kind : EntryKind) (es es' : List Entry) :
    enteredAs kind (es ++ es') = enteredAs kind es + enteredAs kind es' := by
  rw [enteredAs, List.filter_append, quantitySum_append]
  rfl

theorem enteredAs_of_forall {kind kind' : EntryKind} {es : List Entry} (h : ∀ e ∈ es, e.kind = kind') :
    enteredAs kind es = if kind' = kind then quantitySum es else 0 := by
  split
  · rename_i hk
    rw [enteredAs, List.filter_eq_self.mpr fun e he => decide_eq_true ((h e he).trans hk)]
  · rename_i hk
    have hnone : es.filter (·.kind = kind) = [] := by
      apply List.filter_eq_nil_iff.mpr
      intro e he
      simp [h e he, hk]
    rw [enteredAs, hnone]
    rfl

theorem enteredAs_map {α : Type} {kind kind' : EntryKind} {f : α → Entry} {l : List α}
    (h : ∀ x, (f x).kind = kind') :
    enteredAs kind (l.map f) =
      if kind' = kind then Count.total (l.map fun x => (f x).quantity) else 0 := by
  have hkind : ∀ e ∈ l.map f, e.kind = kind' := by
    intro e he
    obtain ⟨x, _, rfl⟩ := List.mem_map.mp he
    exact h x
  rw [enteredAs_of_forall hkind, quantitySum, List.map_map]
  rfl

theorem drained_eq (es : List Entry) :
    drained es = enteredAs .evaporate es + enteredAs .consume es + enteredAs .forfeit es := by
  simp only [drained, enteredAs, quantitySum, Count.total_map_filter, ← List.sum_map_add]
  refine congrArg List.sum (List.map_congr_left fun e _ => ?_)
  cases e.kind <;> simp [EntryKind.sink]

theorem inflow_eq (l : Ledger) (round : Count) : l.inflow round = rained (l.ofRound round) := rfl

theorem outflow_eq (l : Ledger) (round : Count) : l.outflow round = drained (l.ofRound round) := rfl

theorem quantitySum_ofRound_lt {l : Ledger} {n : Nat} (hl : l.entries.length < n) (round : Count)
    (p : Entry → Bool) :
    quantitySum ((l.ofRound round).filter p) < n * 18446744073709551616 := by
  have h1 := quantitySum_filter_le p (l.ofRound round)
  have h2 := quantitySum_filter_le (·.round = round) l.entries
  have h3 := quantitySum_le l.entries
  simp only [ofRound] at h1 ⊢
  omega

theorem inflow_lt {l : Ledger} {n : Nat} (hl : l.entries.length < n) (round : Count) :
    l.inflow round < n * 18446744073709551616 :=
  quantitySum_ofRound_lt hl round _

theorem outflow_lt {l : Ledger} {n : Nat} (hl : l.entries.length < n) (round : Count) :
    l.outflow round < n * 18446744073709551616 :=
  quantitySum_ofRound_lt hl round _

theorem auditConservation_of_wellFormed {l : Ledger} (hw : ∀ e ∈ l.entries, e.WellFormed)
    (hl : l.entries.length < 2 ^ 62) (round : Count) :
    l.auditConservation round = .balanced := by
  -- water that moves within the game is on both sides, so that only sums beyond 128 bits matter
  have hheld : ∀ e ∈ l.internalOf round, e.source.holds = true ∧ e.target.holds = true := by
    intro e he
    obtain ⟨hr, hk⟩ := List.mem_filter.mp he
    have hwf := hw e (List.mem_filter.mp hr).1
    obtain ⟨hs, ht⟩ := EntryKind.internal_iff.mp hk
    exact ⟨hwf.source.holds_iff.mpr hs, hwf.target.holds_iff.mpr ht⟩
  have hc : l.credit round = quantitySum (l.internalOf round) := by
    rw [credit, List.filter_eq_self.mpr fun e he => (hheld e he).2]
  have hd : l.debit round = quantitySum (l.internalOf round) := by
    rw [debit, List.filter_eq_self.mpr fun e he => (hheld e he).1]
  have hq := quantitySum_ofRound_lt hl round (·.kind.internal)
  rw [auditConservation, hc, hd, if_neg, if_pos rfl]
  simp only [sumBound, internalOf]
  omega

theorem auditHoldings_of_eq {l : Ledger} {round : Count} {opening closing : Nat}
    (hsum : opening + l.inflow round < sumBound)
    (h : opening + l.inflow round = closing + l.outflow round) :
    l.auditHoldings round opening closing = .balanced := by
  rw [auditHoldings, if_neg, if_neg, if_pos] <;> omega

end Ledger
end Watershed
