import Watershed.Decimal.Binary64
import Watershed.Text.Numeral

namespace Watershed.Plain

def isNothing (s : String) : Bool :=
  s = "" || s = "~" || s = "null" || s = "Null" || s = "NULL"

def bool? (s : String) : Option Bool :=
  if s = "true" ∨ s = "True" ∨ s = "TRUE" then some true
  else if s = "false" ∨ s = "False" ∨ s = "FALSE" then some false
  else none

def dropSign : List Char → List Char
  | '+' :: s => s
  | '-' :: s => s
  | s => s

def isPadded (s : List Char) : Bool :=
  match dropSign s with
  | '0' :: c :: rest => (c :: rest).all Char.isDigit
  | _ => false

def inBase? : List Char → Option Nat
  | '0' :: 'x' :: s => Text.naturalIn? 16 s
  | '0' :: 'o' :: s => Text.naturalIn? 8 s
  | '0' :: 'b' :: s => Text.naturalIn? 2 s
  | s => if isPadded s then none else Text.natural? s

def natural? : List Char → Option Nat
  | '+' :: s => inBase? s
  | s => inBase? s

def integer? : List Char → Option Int
  | '-' :: s => (inBase? s).map fun n => -(n : Int)
  | s => (natural? s).map Int.ofNat

def fraction? (s : List Char) : Option (List Char × Int × List Char) :=
  let whole := s.takeWhile Char.isDigit
  match s.dropWhile Char.isDigit with
  | '.' :: t =>
    let part := t.takeWhile Char.isDigit
    if whole = [] ∧ part = [] then none
    else some (whole ++ part, -(part.length : Int), t.dropWhile Char.isDigit)
  | t => if whole = [] then none else some (whole, 0, t)

def exponent? : List Char → Option Int
  | [] => some 0
  | c :: s =>
    if c = 'e' ∨ c = 'E' then
      match s with
      | '-' :: t => (Text.natural? t).map fun n => -(n : Int)
      | '+' :: t => (Text.natural? t).map Int.ofNat
      | t => (Text.natural? t).map Int.ofNat
    else none

def binary? (s : List Char) : Option Binary64 := do
  let (digits, e, rest) ← fraction? (dropSign s)
  let n ← Text.natural? digits
  Binary64.ofDigits? (s.head? = some '-') n (e + (← exponent? rest))

def isOutOfRange (s : List Char) : Bool :=
  let body := String.ofList (dropSign s)
  body = ".inf" || body = ".Inf" || body = ".INF" || body = ".nan" || body = ".NaN" || body = ".NAN"

def wholeDecimal? (n : Int) : Option Decimal :=
  if -9223372036854775808 ≤ n ∧ n < 18446744073709551616 then Decimal.mk? (n < 0) n.natAbs 0 else none

def decimal? (s : String) : Option Decimal :=
  let cs := s.toList
  if isNothing s ∨ (bool? s).isSome ∨ isOutOfRange cs then none
  else
    match integer? cs with
    | some n => wholeDecimal? n
    | none =>
      match if isPadded cs then none else binary? cs with
      | some x => x.toDecimal.toOption
      | none => (Decimal.read cs).toOption

end Watershed.Plain
