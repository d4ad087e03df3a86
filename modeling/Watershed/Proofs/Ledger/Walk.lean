import Watershed.Ledger.Walk
import Watershed.Proofs.Ledger.Flow

namespace Watershed.Ledger

def counted (p : Entry → Bool) (e : Entry) : Nat := if p e then e.quantity.val else 0

theorem counted_le (p : Entry → Bool) (e : Entry) : counted p e ≤ e.quantity.val := by
  unfold counted
  split
  · exact Nat.le_refl _
  · exact Nat.zero_le _

theorem quantitySum_filter_cons (p : Entry → Bool) (e : Entry) (es : List Entry) :
    quantitySum ((e :: es).filter p) = counted p e + quantitySum (es.filter p) := by
  rw [counted, List.filter_cons]
  split
  · rfl
  · rw [Nat.zero_add]

theorem takeIn?_eq (p : Entry → Bool) {n : Nat} (hn : n < sumBound) (e : Entry) :
    takeIn? p n e = if n + counted p e < sumBound then some (n + counted p e) else none := by
  unfold takeIn? counted
  split
  · rfl
  · rw [Nat.add_zero, if_pos hn]

theorem tallyStep_eq (first second : Entry → Bool) {m n : Nat} (hm : m < sumBound)
    (hn : n < sumBound) (e : Entry) :
    tallyStep first second (m, n) e =
      if m + counted first e < sumBound ∧ n + counted second e < sumBound then
        some (m + counted first e, n + counted second e)
      else none := by
  rw [tallyStep, takeIn?_eq first hm, takeIn?_eq second hn]
  by_cases h₁ : m + counted first e < sumBound <;> by_cases h₂ : n + counted second e < sumBound <;>
    simp [h₁, h₂]

theorem foldlM_tallyStep (first second : Entry → Bool) (es : List Entry) {m n : Nat}
    (hm : m < sumBound) (hn : n < sumBound) :
    es.foldlM (tallyStep first second) (m, n) =
      if m + quantitySum (es.filter first) < sumBound ∧
          n + quantitySum (es.filter second) < sumBound then
        some (m + quantitySum (es.filter first), n + quantitySum (es.filter second))
      else none := by
  induction es generalizing m n with
  | nil => exact (if_pos ⟨hm, hn⟩).symm
  | cons e es ih =>
    rw [List.foldlM_cons, tallyStep_eq first second hm hn, quantitySum_filter_cons,
      quantitySum_filter_cons, ← Nat.add_assoc, ← Nat.add_assoc]
    by_cases h : m + counted first e < sumBound ∧ n + counted second e < sumBound
    · rw [if_pos h]
      exact ih h.1 h.2
    · rw [if_neg h, if_neg (by omega)]
      rfl

theorem tally?_eq (first second : Entry → Bool) (es : List Entry) :
    tally? first second es =
      if quantitySum (es.filter first) < sumBound ∧ quantitySum (es.filter second) < sumBound then
        some (quantitySum (es.filter first), quantitySum (es.filter second))
      else none := by
  have h := foldlM_tallyStep first second es (m := 0) (n := 0) (by decide) (by decide)
  rwa [Nat.zero_add, Nat.zero_add] at h

theorem filter_ofRound (l : Ledger) (round : Count) (p : Entry → Bool) :
    l.entries.filter (fun e => e.round = round && p e) = (l.ofRound round).filter p := by
  rw [ofRound, List.filter_filter]
  exact List.filter_congr fun e _ => Bool.and_comm _ _

theorem walkConservation_eq (l : Ledger) (round : Count) :
    l.walkConservation round = l.auditConservation round := by
  have hmoved (p : Entry → Bool) :
      l.entries.filter (fun e => (e.round = round && e.kind.internal) && p e) =
        (l.internalOf round).filter p := by
    rw [internalOf, ← filter_ofRound, List.filter_filter]
    exact List.filter_congr fun e _ => Bool.and_comm _ _
  have hcredit : quantitySum (l.entries.filter fun e =>
      (e.round = round && e.kind.internal) && e.target.holds) = l.credit round :=
    congrArg quantitySum (hmoved fun e => e.target.holds)
  have hdebit : quantitySum (l.entries.filter fun e =>
      (e.round = round && e.kind.internal) && e.source.holds) = l.debit round :=
    congrArg quantitySum (hmoved fun e => e.source.holds)
  rw [walkConservation, tally?_eq, hcredit, hdebit, auditConservation]
  by_cases h : l.credit round < sumBound ∧ l.debit round < sumBound
  · rw [if_pos h, if_neg (by omega)]
  · rw [if_neg h, if_pos (by omega)]

theorem walkHoldings_eq (l : Ledger) (round : Count) (opening closing : Nat) :
    l.walkHoldings round opening closing = l.auditHoldings round opening closing := by
  have hinflow : quantitySum (l.entries.filter fun e => e.round = round && e.kind = .rainfall) =
      l.inflow round := congrArg quantitySum (filter_ofRound l round (·.kind = .rainfall))
  have houtflow : quantitySum (l.entries.filter fun e => e.round = round && e.kind.sink) =
      l.outflow round := congrArg quantitySum (filter_ofRound l round (·.kind.sink))
  rw [walkHoldings, tally?_eq, hinflow, houtflow, auditHoldings]
  by_cases h : l.inflow round < sumBound ∧ l.outflow round < sumBound
  · rw [if_pos h, if_neg (by omega)]
    dsimp only
    by_cases hopening : opening + l.inflow round < sumBound
    · by_cases hdrawn : l.outflow round ≤ opening + l.inflow round
      · rw [if_neg (by omega)]
        simp [expected?, hopening, hdrawn]
      · rw [if_pos (by omega)]
        simp [expected?, hopening, hdrawn]
    · rw [if_pos (by omega)]
      simp [expected?, hopening]
  · rw [if_neg h, if_pos (by omega)]

def reached (totals : Roll (EntryKind × Count)) (kind : EntryKind) : Count :=
  ((totals.find? kind).map Prod.snd).getD 0

theorem find?_totalStep_self (totals : Roll (EntryKind × Count)) (e : Entry) :
    (totalStep e.round totals e).find? e.kind =
      some (e.kind, (reached totals e.kind).addUpTo e.quantity) := by
  rw [totalStep, if_pos rfl]
  exact Roll.find?_put_self totals (e.kind, _)

theorem find?_totalStep_other {round : Count} {kind : EntryKind} {e : Entry}
    (h : ¬ (e.round = round ∧ e.kind = kind)) (totals : Roll (EntryKind × Count)) :
    (totalStep round totals e).find? kind = totals.find? kind := by
  unfold totalStep
  split
  · rename_i hr
    exact Roll.find?_put_of_ne fun hk => h ⟨hr, hk⟩
  · rfl

theorem find?_foldl_totalStep (round : Count) (kind : EntryKind) (es : List Entry)
    (totals : Roll (EntryKind × Count)) :
    (es.foldl (totalStep round) totals).find? kind =
      if es.any (fun e => e.round = round && e.kind = kind) then
        some (kind, .clamp ((reached totals kind).val +
          quantitySum (es.filter fun e => e.round = round && e.kind = kind)))
      else totals.find? kind := by
  induction es generalizing totals with
  | nil => rfl
  | cons e es ih =>
    rw [List.foldl_cons, ih, List.any_cons, quantitySum_filter_cons]
    by_cases he : e.round = round ∧ e.kind = kind
    · obtain ⟨rfl, rfl⟩ := he
      have hself : (e.round = e.round && e.kind = e.kind : Bool) = true := by simp
      have hreached : reached (totalStep e.round totals e) e.kind =
          (reached totals e.kind).addUpTo e.quantity := by
        rw [reached, find?_totalStep_self]
        rfl
      rw [find?_totalStep_self, hreached, counted, hself, Bool.true_or, if_pos rfl, if_pos rfl]
      split
      · refine congrArg (fun n => some (e.kind, n)) (Count.ext ?_)
        rw [Count.val_clamp, Count.val_clamp, Count.val_addUpTo]
        omega
      · rename_i hnone
        have hrest : (es.filter fun e' => e'.round = e.round && e'.kind = e.kind) = [] := by
          simpa only [List.any_eq_true, not_exists, not_and, List.filter_eq_nil_iff] using hnone
        rw [hrest]
        rfl
    · have hpass : (e.round = round && e.kind = kind : Bool) = false := by simpa using he
      have hreached : reached (totalStep round totals e) kind = reached totals kind := by
        rw [reached, find?_totalStep_other he, reached]
      rw [find?_totalStep_other he, hreached, counted, hpass, Bool.false_or, if_neg Bool.false_ne_true,
        Nat.zero_add]

theorem find?_walkTotals (l : Ledger) (round : Count) (kind : EntryKind) :
    (l.walkTotals round).find? kind = (l.total? round kind).map fun n => (kind, n) := by
  have hany : l.entries.any (fun e => e.round = round && e.kind = kind) =
      (l.ofRound round).any (·.kind = kind) := by
    rw [ofRound, List.any_filter]
  have hsum : quantitySum (l.entries.filter fun e => e.round = round && e.kind = kind) =
      l.sumOf round kind := congrArg quantitySum (filter_ofRound l round (·.kind = kind))
  rw [walkTotals, find?_foldl_totalStep, hany, hsum, total?]
  split
  · have hstart : (reached .empty kind).val = 0 := rfl
    rw [hstart, Nat.zero_add]
    rfl
  · rfl

theorem mem_totals {l : Ledger} {round : Count} {x : EntryKind × Count} :
    x ∈ l.totals round ↔ l.total? round x.1 = some x.2 := by
  have hall : x.1 ∈ EntryKind.all := by cases x.1 <;> decide
  simp only [totals, List.mem_filterMap, Option.map_eq_some_iff]
  constructor
  · rintro ⟨kind, _, n, hn, rfl⟩
    exact hn
  · exact fun h => ⟨x.1, hall, x.2, h, rfl⟩

theorem ascending_totals (l : Ledger) (round : Count) : Ascending (l.totals round) := by
  have hall : EntryKind.all.Pairwise (· < ·) := by decide
  refine hall.filterMap _ fun a b hab x hx y hy => ?_
  obtain ⟨_, _, rfl⟩ := Option.map_eq_some_iff.mp hx
  obtain ⟨_, _, rfl⟩ := Option.map_eq_some_iff.mp hy
  exact hab

theorem toList_walkTotals (l : Ledger) (round : Count) :
    (l.walkTotals round).toList = l.totals round := by
  refine congrArg Roll.toList (Roll.ext_mem (s := ⟨l.totals round, ascending_totals l round⟩) ?_)
  rintro ⟨kind, n⟩
  have hfind := Roll.find?_eq_some (r := l.walkTotals round) (k := kind) (a := (kind, n))
  rw [find?_walkTotals, Option.map_eq_some_iff] at hfind
  rw [mem_totals]
  constructor
  · intro hx
    obtain ⟨m, hm, he⟩ := hfind.mpr ⟨hx, rfl⟩
    cases he
    exact hm
  · exact fun hn => (hfind.mp ⟨n, hn, rfl⟩).1

end Watershed.Ledger
