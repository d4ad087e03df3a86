import Watershed.Ledger.Audit

namespace Watershed.Ledger

def takeIn? (p : Entry → Bool) (sum : Nat) (e : Entry) : Option Nat :=
  if p e then if sum + e.quantity.val < sumBound then some (sum + e.quantity.val) else none
  else some sum

def tallyStep (first second : Entry → Bool) (sums : Nat × Nat) (e : Entry) : Option (Nat × Nat) := do
  let a ← takeIn? first sums.1 e
  let b ← takeIn? second sums.2 e
  some (a, b)

def tally? (first second : Entry → Bool) (es : List Entry) : Option (Nat × Nat) :=
  es.foldlM (tallyStep first second) (0, 0)

def walkConservation (l : Ledger) (round : Count) : Verdict :=
  let moved (e : Entry) : Bool := e.round = round && e.kind.internal
  match tally? (fun e => moved e && e.target.holds) (fun e => moved e && e.source.holds) l.entries with
  | none => .anomaly ⟨round, 0, 0, .sumTooGreat⟩
  | some (credit, debit) =>
    if credit = debit then .balanced
    else .anomaly ⟨round, debit, credit, .internal debit credit⟩

def expected? (opening inflow outflow : Nat) : Option Nat := do
  let total ← if opening + inflow < sumBound then some (opening + inflow) else none
  if outflow ≤ total then some (total - outflow) else none

def walkHoldings (l : Ledger) (round : Count) (opening closing : Nat) : Verdict :=
  match tally? (fun e => e.round = round && e.kind = .rainfall)
      (fun e => e.round = round && e.kind.sink) l.entries with
  | none => .anomaly ⟨round, 0, 0, .sumTooGreat⟩
  | some (inflow, outflow) =>
    match expected? opening inflow outflow with
    | none => .anomaly ⟨round, 0, closing, .overdrawn outflow opening inflow⟩
    | some expected =>
      if expected = closing then .balanced
      else .anomaly ⟨round, expected, closing, .holdings expected closing⟩

def totalStep (round : Count) (totals : Roll (EntryKind × Count)) (e : Entry) :
    Roll (EntryKind × Count) :=
  if e.round = round then
    totals.put (e.kind, (((totals.find? e.kind).map Prod.snd).getD 0).addUpTo e.quantity)
  else totals

def walkTotals (l : Ledger) (round : Count) : Roll (EntryKind × Count) :=
  l.entries.foldl (totalStep round) .empty

end Watershed.Ledger
