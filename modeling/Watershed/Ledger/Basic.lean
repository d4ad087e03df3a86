import Watershed.Ledger.Draft

namespace Watershed

structure Ledger where
  entries : List Entry
deriving DecidableEq, Repr

namespace Ledger

def empty : Ledger := ⟨[]⟩

instance : Inhabited Ledger := ⟨empty⟩

def append (l : Ledger) (e : Entry) : Ledger := ⟨l.entries ++ [e]⟩

def appendAll (l : Ledger) (es : List Entry) : Ledger := ⟨l.entries ++ es⟩

def record (l : Ledger) (d : Draft) : Except LedgerFault (Entry × Ledger) := do
  let e ← d.toEntry
  .ok (e, l.append e)

def submit (l : Ledger) (d : Draft) : Except LedgerFault Entry × Ledger :=
  match l.record d with
  | .ok (e, l') => (.ok e, l')
  | .error fault => (.error fault, l)

def submitAll (l : Ledger) (ds : List Draft) : Ledger := ds.foldl (fun l d => (l.submit d).2) l

def recordAll (l : Ledger) : List Entry → Except LedgerFault Ledger
  | [] => .ok l
  | e :: es => do
    let (_, l') ← l.record e.toDraft
    l'.recordAll es

def ofRound (l : Ledger) (round : Count) : List Entry := l.entries.filter (·.round = round)

def signedBound : Int := 170141183460469231731687303715884105728

def clampSigned (n : Int) : Int := max (-signedBound) (min n (signedBound - 1))

def balanceStep (id : Uuid) (balance : Int) (e : Entry) : Int :=
  let received := if e.target.entity = some id then clampSigned (balance + e.quantity.val) else balance
  if e.source.entity = some id then clampSigned (received - e.quantity.val) else received

def balanceOf (l : Ledger) (id : Uuid) : Int := l.entries.foldl (balanceStep id) 0

def flowStep (flow : Int) (e : Entry) : Int :=
  if e.kind = .rainfall then clampSigned (flow + e.quantity.val)
  else if e.kind.sink then clampSigned (flow - e.quantity.val)
  else flow

def netFlow (l : Ledger) (round : Count) : Int := (l.ofRound round).foldl flowStep 0

def quantitySum (es : List Entry) : Nat := Count.total (es.map (·.quantity))

def sumOf (l : Ledger) (round : Count) (kind : EntryKind) : Nat :=
  quantitySum ((l.ofRound round).filter (·.kind = kind))

def total? (l : Ledger) (round : Count) (kind : EntryKind) : Option Count :=
  if (l.ofRound round).any (·.kind = kind) then some (Count.clamp (l.sumOf round kind)) else none

def totals (l : Ledger) (round : Count) : List (EntryKind × Count) :=
  EntryKind.all.filterMap fun kind => (l.total? round kind).map fun total => (kind, total)

end Ledger
end Watershed
