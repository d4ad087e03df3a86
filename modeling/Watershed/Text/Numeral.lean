import Watershed.Count

namespace Watershed.Text

def digit? (c : Char) : Option Nat :=
  if '0' ≤ c ∧ c ≤ '9' then some (c.toNat - '0'.toNat) else none

def digitIn? (base : Nat) (c : Char) : Option Nat :=
  let value :=
    if '0' ≤ c ∧ c ≤ '9' then some (c.toNat - '0'.toNat)
    else if 'a' ≤ c ∧ c ≤ 'f' then some (c.toNat - 'a'.toNat + 10)
    else if 'A' ≤ c ∧ c ≤ 'F' then some (c.toNat - 'A'.toNat + 10)
    else none
  value.filter (· < base)

def extend? (base : Nat) : Nat → List Char → Option Nat
  | n, [] => some n
  | n, c :: s => do
    let d ← digitIn? base c
    extend? base (n * base + d) s

def naturalIn? (base : Nat) : List Char → Option Nat
  | [] => none
  | s => extend? base 0 s

def natural? (s : List Char) : Option Nat := naturalIn? 10 s

def unsigned? : List Char → Option Nat
  | '+' :: s => natural? s
  | s => natural? s

def count? (s : List Char) : Option Count := (unsigned? s).bind Count.ofNat?

end Watershed.Text
