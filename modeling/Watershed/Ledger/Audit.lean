import Watershed.Ledger.Basic

namespace Watershed

inductive Imbalance
  | sumTooGreat
  | internal (debit credit : Nat)
  | overdrawn (outflow opening inflow : Nat)
  | holdings (expected closing : Nat)
deriving DecidableEq, Repr

structure Anomaly where
  round : Count
  expected : Nat
  actual : Nat
  cause : Imbalance
deriving DecidableEq, Repr

def Anomaly.message (a : Anomaly) : String :=
  "LEDGER_ANOMALY in round " ++ a.round.text ++ ": " ++
    match a.cause with
    | .sumTooGreat => "arithmetic overflow while summing"
    | .internal debit credit =>
      "internal debits " ++ toString debit ++ " != credits " ++ toString credit
    | .overdrawn outflow opening inflow =>
      toString outflow ++ " units left the game but only " ++ toString opening ++ " + " ++
        toString inflow ++ " were ever held"
    | .holdings expected closing =>
      "expected " ++ toString expected ++ " units held, found " ++ toString closing

inductive Verdict
  | balanced
  | anomaly (anomaly : Anomaly)
deriving DecidableEq, Repr

namespace Ledger

def sumBound : Nat := 340282366920938463463374607431768211456

def internalOf (l : Ledger) (round : Count) : List Entry := (l.ofRound round).filter (·.kind.internal)

def credit (l : Ledger) (round : Count) : Nat :=
  quantitySum ((l.internalOf round).filter (·.target.holds))

def debit (l : Ledger) (round : Count) : Nat :=
  quantitySum ((l.internalOf round).filter (·.source.holds))

def auditConservation (l : Ledger) (round : Count) : Verdict :=
  let credit := l.credit round
  let debit := l.debit round
  if sumBound ≤ credit ∨ sumBound ≤ debit then .anomaly ⟨round, 0, 0, .sumTooGreat⟩
  else if credit = debit then .balanced
  else .anomaly ⟨round, debit, credit, .internal debit credit⟩

def inflow (l : Ledger) (round : Count) : Nat := l.sumOf round .rainfall

def outflow (l : Ledger) (round : Count) : Nat :=
  quantitySum ((l.ofRound round).filter (·.kind.sink))

def auditHoldings (l : Ledger) (round : Count) (opening closing : Nat) : Verdict :=
  let inflow := l.inflow round
  let outflow := l.outflow round
  if sumBound ≤ inflow ∨ sumBound ≤ outflow then .anomaly ⟨round, 0, 0, .sumTooGreat⟩
  else if sumBound ≤ opening + inflow ∨ opening + inflow < outflow then
    .anomaly ⟨round, 0, closing, .overdrawn outflow opening inflow⟩
  else if opening + inflow - outflow = closing then .balanced
  else
    let expected := opening + inflow - outflow
    .anomaly ⟨round, expected, closing, .holdings expected closing⟩

end Ledger
end Watershed
