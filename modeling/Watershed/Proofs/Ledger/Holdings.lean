import Watershed.Proofs.Ledger.Walk
import Mathlib.Algebra.BigOperators.Group.List.Basic

namespace Watershed.Ledger

def sunk (l : Ledger) (round : Count) : Nat :=
  l.sumOf round .forfeit + l.sumOf round .evaporate + l.sumOf round .consume

theorem outflow_eq_sunk (l : Ledger) (round : Count) : l.outflow round = l.sunk round := by
  have h := drained_eq (l.ofRound round)
  rw [outflow_eq, h, sunk]
  show l.sumOf round .evaporate + l.sumOf round .consume + l.sumOf round .forfeit = _
  omega

theorem flowStep_eq {b : Int} {e : Entry} (hlow : -signedBound ≤ b - e.quantity.val)
    (hhigh : b + e.quantity.val < signedBound) :
    flowStep b e = b + counted (·.kind = .rainfall) e - counted (·.kind.sink) e := by
  cases h : e.kind <;> simp [flowStep, counted, clampSigned, EntryKind.sink, h] <;> omega

theorem foldl_flowStep (es : List Entry) {b : Int} (hlow : -signedBound ≤ b - quantitySum es)
    (hhigh : b + quantitySum es < signedBound) :
    es.foldl flowStep b = b + rained es - drained es := by
  induction es generalizing b with
  | nil => simp [rained, drained, quantitySum, Count.total]
  | cons e es ih =>
    have hrain := counted_le (·.kind = .rainfall) e
    have hdrain := counted_le (·.kind.sink) e
    have hrained : rained (e :: es) = counted (·.kind = .rainfall) e + rained es :=
      quantitySum_filter_cons _ e es
    have hdrained : drained (e :: es) = counted (·.kind.sink) e + drained es :=
      quantitySum_filter_cons _ e es
    rw [quantitySum_cons] at hlow hhigh
    rw [List.foldl_cons, flowStep_eq (by omega) (by omega), ih (by omega) (by omega), hrained, hdrained]
    omega

theorem netFlow_eq {l : Ledger} {round : Count} (h : quantitySum (l.ofRound round) < 2 ^ 127) :
    l.netFlow round = (rained (l.ofRound round) : Int) - drained (l.ofRound round) := by
  have hfold := foldl_flowStep (l.ofRound round) (b := 0) (by simp only [signedBound]; omega)
    (by simp only [signedBound]; omega)
  rwa [Int.zero_add] at hfold

theorem sunk_lt {l : Ledger} {round : Count} (h : quantitySum (l.ofRound round) < 2 ^ 127) :
    l.sunk round < sumBound := by
  have hle := quantitySum_filter_le (·.kind.sink) (l.ofRound round)
  rw [← outflow_eq_sunk]
  show quantitySum ((l.ofRound round).filter (·.kind.sink)) < _
  simp only [sumBound]
  omega

theorem auditHoldings_eq {l : Ledger} {round : Count} {opening : Nat}
    (hopening : opening + l.sumOf round .rainfall < sumBound) (hsunk : l.sunk round < sumBound)
    (closing : Nat) :
    l.auditHoldings round opening closing =
      if opening + l.sumOf round .rainfall < l.sunk round then
        .anomaly ⟨round, 0, closing, .overdrawn (l.sunk round) opening (l.sumOf round .rainfall)⟩
      else if opening + l.sumOf round .rainfall = closing + l.sunk round then .balanced
      else
        let expected := opening + l.sumOf round .rainfall - l.sunk round
        .anomaly ⟨round, expected, closing, .holdings expected closing⟩ := by
  have hin : l.inflow round = l.sumOf round .rainfall := rfl
  rw [auditHoldings, outflow_eq_sunk, hin]
  dsimp only
  rw [if_neg (by omega)]
  by_cases hover : opening + l.sumOf round .rainfall < l.sunk round
  · rw [if_pos (Or.inr hover), if_pos hover]
  · rw [if_neg (by omega), if_neg hover]
    by_cases heq : opening + l.sumOf round .rainfall = closing + l.sunk round
    · rw [if_pos (by omega), if_pos heq]
    · rw [if_neg (by omega), if_neg heq]

structure Traces (l : Ledger) (round : Count) (opening closing : Nat) (a : Anomaly) : Prop where
  named : a.round = round
  actual : a.actual = closing
  expected : l.sunk round ≤ opening + l.sumOf round .rainfall →
    a.expected + l.sunk round = opening + l.sumOf round .rainfall

structure HoldingsExact (l : Ledger) (round : Count) (opening : Nat) : Prop where
  flow (closing : Nat) : l.auditHoldings round opening closing = .balanced ↔
    opening + l.netFlow round = closing
  sums (closing : Nat) : l.auditHoldings round opening closing = .balanced ↔
    opening + l.sumOf round .rainfall = closing + l.sumOf round .forfeit + l.sumOf round .evaporate +
      l.sumOf round .consume
  anomaly (closing : Nat) (a : Anomaly) : l.auditHoldings round opening closing = .anomaly a →
    l.Traces round opening closing a

theorem holdingsExact {l : Ledger} {round : Count} {opening : Nat}
    (hopening : opening + l.sumOf round .rainfall < sumBound)
    (hquantities : quantitySum (l.ofRound round) < 2 ^ 127) : l.HoldingsExact round opening := by
  have haudit := auditHoldings_eq hopening (sunk_lt hquantities)
  have hbalanced (closing : Nat) : l.auditHoldings round opening closing = .balanced ↔
      opening + l.sumOf round .rainfall = closing + l.sunk round := by
    rw [haudit]
    split
    · exact iff_of_false (by simp) (by omega)
    · split
      · rename_i heq
        exact iff_of_true rfl heq
      · rename_i hne
        exact iff_of_false (by simp) hne
  refine ⟨fun closing => ?_, fun closing => ?_, fun closing a ha => ?_⟩
  · rw [hbalanced, netFlow_eq hquantities, ← inflow_eq, ← outflow_eq, outflow_eq_sunk]
    show _ ↔ (opening : Int) + (l.sumOf round .rainfall - l.sunk round) = closing
    omega
  · rw [hbalanced, sunk]
    omega
  · rw [haudit] at ha
    split at ha
    · rename_i hover
      cases ha
      exact ⟨rfl, rfl, fun hle => absurd hover (Nat.not_lt.mpr hle)⟩
    · split at ha
      · cases ha
      · cases ha
        exact ⟨rfl, rfl, fun hle => Nat.sub_add_cancel hle⟩

theorem quantitySum_perm {es es' : List Entry} (h : es.Perm es') :
    quantitySum es = quantitySum es' := by
  rw [quantitySum, quantitySum, Count.total_map, Count.total_map]
  exact (h.map _).sum_eq

theorem auditHoldings_perm {l l' : Ledger} {round : Count}
    (h : (l'.ofRound round).Perm (l.ofRound round)) (opening closing : Nat) :
    l'.auditHoldings round opening closing = l.auditHoldings round opening closing := by
  have hinflow : l'.inflow round = l.inflow round := quantitySum_perm (h.filter _)
  have houtflow : l'.outflow round = l.outflow round := quantitySum_perm (h.filter _)
  rw [auditHoldings, auditHoldings, hinflow, houtflow]

theorem auditConservation_perm {l l' : Ledger} {round : Count}
    (h : (l'.ofRound round).Perm (l.ofRound round)) :
    l'.auditConservation round = l.auditConservation round := by
  have hcredit : l'.credit round = l.credit round := quantitySum_perm ((h.filter _).filter _)
  have hdebit : l'.debit round = l.debit round := quantitySum_perm ((h.filter _).filter _)
  rw [auditConservation, auditConservation, hcredit, hdebit]

structure TotalsExact (l : Ledger) (round : Count) : Prop where
  listed : l.totals round = (l.walkTotals round).toList
  entered (kind : EntryKind) : (∃ e ∈ l.entries, e.round = round ∧ e.kind = kind) →
    ∃ n : Count, (l.walkTotals round).find? kind = some (kind, n) ∧
      n.val = min (l.sumOf round kind) 18446744073709551615
  absent (kind : EntryKind) : (¬ ∃ e ∈ l.entries, e.round = round ∧ e.kind = kind) →
    (l.walkTotals round).find? kind = none

theorem totalsExact (l : Ledger) (round : Count) : l.TotalsExact round := by
  have hany (kind : EntryKind) : (l.ofRound round).any (·.kind = kind) = true ↔
      ∃ e ∈ l.entries, e.round = round ∧ e.kind = kind := by
    simp [ofRound]
  refine ⟨(l.toList_walkTotals round).symm, fun kind h => ?_, fun kind h => ?_⟩
  · refine ⟨.clamp (l.sumOf round kind), ?_, Count.val_clamp _⟩
    rw [find?_walkTotals, total?, if_pos ((hany kind).mpr h)]
    rfl
  · rw [find?_walkTotals, total?, if_neg fun hk => h ((hany kind).mp hk)]
    rfl

theorem holdings_exact (l : Ledger) (round : Count) :
    (∀ opening closing,
      l.walkHoldings round opening closing = l.auditHoldings round opening closing) ∧
    (∀ opening, opening + l.sumOf round .rainfall < 2 ^ 128 →
      quantitySum (l.ofRound round) < 2 ^ 127 → l.HoldingsExact round opening) ∧
    l.TotalsExact round ∧
    ∀ l' : Ledger, (l'.ofRound round).Perm (l.ofRound round) →
      l'.auditConservation round = l.auditConservation round ∧
      ∀ opening closing,
        l'.auditHoldings round opening closing = l.auditHoldings round opening closing := by
  refine ⟨l.walkHoldings_eq round, fun opening hopening hquantities => ?_, l.totalsExact round,
    fun l' hl => ⟨auditConservation_perm hl, auditHoldings_perm hl⟩⟩
  have hbound : sumBound = 2 ^ 128 := by decide
  exact holdingsExact (hbound ▸ hopening) hquantities

def storm : Ledger := ⟨[.rainfall 1 (.clamp 99) ⟨.ofNat 3⟩, .rainfall (.clamp 2) (.clamp 100) ⟨.ofNat 3⟩,
  .allocate (.clamp 2) (.clamp 60) ⟨.ofNat 3⟩ ⟨.ofNat 7⟩ ⟨.ofNat 1⟩,
  ⟨.clamp 2, .forfeit, .unset, .unset, .clamp 10, "", none⟩,
  .evaporate (.clamp 2) (.clamp 5) ⟨.ofNat 3⟩]⟩

theorem storm_exact :
    (20 + storm.sumOf (.clamp 2) .rainfall < 2 ^ 128 ∧
      quantitySum (storm.ofRound (.clamp 2)) < 2 ^ 127 ∧ storm.HoldingsExact (.clamp 2) 20) ∧
    storm.TotalsExact (.clamp 2) ∧
    ((⟨storm.entries.reverse⟩ : Ledger).ofRound (.clamp 2)).Perm (storm.ofRound (.clamp 2)) ∧
    ∀ opening closing, (⟨storm.entries.reverse⟩ : Ledger).auditHoldings (.clamp 2) opening closing =
      storm.auditHoldings (.clamp 2) opening closing := by
  obtain ⟨_, hexact, htotals, horder⟩ := holdings_exact storm (.clamp 2)
  have hperm : ((⟨storm.entries.reverse⟩ : Ledger).ofRound (.clamp 2)).Perm (storm.ofRound (.clamp 2)) :=
    storm.entries.reverse_perm.filter _
  exact ⟨⟨by decide, by decide, hexact 20 (by decide) (by decide)⟩, htotals, hperm,
    (horder ⟨storm.entries.reverse⟩ hperm).2⟩

example : storm.walkHoldings (.clamp 2) 20 105 = .balanced := by decide

end Watershed.Ledger
