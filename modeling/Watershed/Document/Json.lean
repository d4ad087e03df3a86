import Watershed.Document.Datum
import Watershed.Text.Numeral

namespace Watershed.Json

def isBlank (c : Char) : Bool := c = ' ' || c = '\t' || c = '\n' || c = '\r'

def skip (s : List Char) : List Char := s.dropWhile isBlank

def escaped? : Char → Option Char
  | '"' => some '"'
  | '\\' => some '\\'
  | '/' => some '/'
  | 'b' => some '\x08'
  | 'f' => some '\x0c'
  | 'n' => some '\n'
  | 'r' => some '\r'
  | 't' => some '\t'
  | _ => none

def isHigh (n : Nat) : Bool := 0xD800 ≤ n && n < 0xDC00

def isLow (n : Nat) : Bool := 0xDC00 ≤ n && n < 0xE000

def joinPair (high low : Nat) : Nat := 0x10000 + (high - 0xD800) * 0x400 + (low - 0xDC00)

def readText (read : List Char) : List Char → Option (String × List Char)
  | [] => none
  | '"' :: s => some (String.ofList read.reverse, s)
  | '\\' :: 'u' :: a :: b :: c :: d :: s => do
    let n ← Text.naturalIn? 16 [a, b, c, d]
    if isLow n then none
    else if isHigh n then
      match s with
      | '\\' :: 'u' :: a :: b :: c :: d :: s => do
        let m ← Text.naturalIn? 16 [a, b, c, d]
        if isLow m then readText (Char.ofNat (joinPair n m) :: read) s else none
      | _ => none
    else readText (Char.ofNat n :: read) s
  | '\\' :: c :: s => do readText ((← escaped? c) :: read) s
  | c :: s => if c.toNat < 0x20 then none else readText (c :: read) s

def significantBound : Nat := 18446744073709551616

structure Digits where
  value : Nat
  exponent : Int

def Digits.whole (d : Digits) : List Nat → Digits
  | [] => d
  | n :: rest =>
    if d.exponent = 0 ∧ d.value * 10 + n < significantBound then { d with value := d.value * 10 + n }.whole rest
    else { d with exponent := d.exponent + 1 }.whole rest

def Digits.fraction (d : Digits) : List Nat → Digits
  | [] => d
  | n :: rest =>
    if d.value * 10 + n < significantBound then (Digits.mk (d.value * 10 + n) (d.exponent - 1)).fraction rest
    else d

def scaleUp (x : Binary64) (e : Nat) : Option Binary64 := do
  x.mul? (← Binary64.ofDigits? false 1 e)

def powerMax : Nat := 308

def scaleDown (x : Binary64) (e : Nat) : Option Binary64 := do
  x.div? (← Binary64.ofDigits? false 1 e)

/-- Divides by a power of ten, at most `10 ^ 308` at a time. After three such steps nothing is left
of a number. -/
def scaleDownBy (x : Binary64) : Nat → Nat → Option Binary64
  | 0, _ => some (Binary64.zero x.negative)
  | steps + 1, e =>
    if e ≤ powerMax then scaleDown x e
    else do scaleDownBy (← scaleDown x powerMax) steps (e - powerMax)

def Digits.toBinary? (negative : Bool) (d : Digits) : Option Binary64 := do
  let x ← Binary64.ofDigits? negative d.value 0
  if d.value = 0 then some x
  else if 0 ≤ d.exponent then
    if powerMax < d.exponent.toNat then none else scaleUp x d.exponent.toNat
  else scaleDownBy x 4 (-d.exponent).toNat

def takeDigits (s : List Char) : List Nat × List Char :=
  ((s.takeWhile Char.isDigit).filterMap Text.digit?, s.dropWhile Char.isDigit)

def readWhole (s : List Char) : Option (List Nat × List Char) :=
  match takeDigits s with
  | ([], _) => none
  | (0 :: _ :: _, _) => none
  | r => some r

def readFraction : List Char → Option (Option (List Nat) × List Char)
  | '.' :: s =>
    match takeDigits s with
    | ([], _) => none
    | (digits, s) => some (some digits, s)
  | s => some (none, s)

def ofDigits (digits : List Nat) : Nat := digits.foldl (fun n d => n * 10 + d) 0

def readExponent (s : List Char) : Option (Option Int × List Char) :=
  match s with
  | c :: s' =>
    if c = 'e' ∨ c = 'E' then
      let (negative, s') :=
        match s' with
        | '-' :: t => (true, t)
        | '+' :: t => (false, t)
        | t => (false, t)
      match takeDigits s' with
      | ([], _) => none
      | (digits, s') =>
        let e : Int := ofDigits digits
        some (some (if negative then -e else e), s')
    else some (none, s)
  | [] => some (none, s)

def wholeNumber? (negative : Bool) (n : Nat) : Option Int :=
  if negative then (if n = 0 ∨ 9223372036854775808 < n then none else some (-n))
  else if n < significantBound then some n else none

def readNumber (s : List Char) : Option (Scalar × List Char) := do
  let (negative, s) :=
    match s with
    | '-' :: t => (true, t)
    | t => (false, t)
  let (whole, s) ← readWhole s
  let (fraction, s) ← readFraction s
  let (exponent, s) ← readExponent s
  match fraction, exponent, wholeNumber? negative (ofDigits whole) with
  | none, none, some n => some (.int n, s)
  | _, _, _ =>
    let d := ((Digits.mk 0 0).whole whole).fraction (fraction.getD [])
    let x ← { d with exponent := d.exponent + exponent.getD 0 }.toBinary? negative
    some (.binary x, s)

mutual

/-- A value and the text after it. Each value takes at least one character, so that the length of
the text is fuel enough. -/
def readValue : Nat → List Char → Option (Datum × List Char)
  | 0, _ => none
  | fuel + 1, s =>
    match skip s with
    | 'n' :: 'u' :: 'l' :: 'l' :: s => some (.null, s)
    | 't' :: 'r' :: 'u' :: 'e' :: s => some (.bool true, s)
    | 'f' :: 'a' :: 'l' :: 's' :: 'e' :: s => some (.bool false, s)
    | '"' :: s => (readText [] s).map fun r => (.text r.1, r.2)
    | '[' :: s =>
      match skip s with
      | ']' :: s => some (.list [], s)
      | s => readItems fuel [] s
    | '\x7b' :: s =>
      match skip s with
      | '\x7d' :: s => some (.record [], s)
      | s => readFields fuel [] s
    | s => (readNumber s).map fun r => (.scalar r.1, r.2)

def readItems : Nat → List Datum → List Char → Option (Datum × List Char)
  | 0, _, _ => none
  | fuel + 1, read, s => do
    let (item, s) ← readValue fuel s
    match skip s with
    | ',' :: s => readItems fuel (item :: read) s
    | ']' :: s => some (.list (item :: read).reverse, s)
    | _ => none

def readFields : Nat → List (Scalar × Datum) → List Char → Option (Datum × List Char)
  | 0, _, _ => none
  | fuel + 1, read, s =>
    match skip s with
    | '"' :: s => do
      let (name, s) ← readText [] s
      match skip s with
      | ':' :: s => do
        let (item, s) ← readValue fuel s
        match skip s with
        | ',' :: s => readFields fuel ((.name name, item) :: read) s
        | '\x7d' :: s => some (.record ((.name name, item) :: read).reverse, s)
        | _ => none
      | _ => none
    | _ => none

end

def read (text : String) : Option Datum := do
  let s := text.toList
  let (d, rest) ← readValue (s.length + 1) s
  if skip rest = [] then some d else none

def unitText (n : Nat) : List Char :=
  let digits := Nat.toDigits 16 n
  ['\\', 'u'] ++ List.replicate (4 - digits.length) '0' ++ digits

def charText (c : Char) : List Char :=
  let n := c.toNat
  if c = '"' then ['\\', '"']
  else if c = '\\' then ['\\', '\\']
  else if 0x20 ≤ n ∧ n < 0x7F then [c]
  else if n < 0x10000 then unitText n
  else
    unitText (0xD800 + (n - 0x10000) / 0x400) ++ unitText (0xDC00 + (n - 0x10000) % 0x400)

def pushText (out : String) (s : String) : String :=
  (s.toList.foldl (fun out c => (charText c).foldl String.push out) (out.push '"')).push '"'

def binaryText (x : Binary64) : String :=
  let s := x.text
  String.ofList (if s.contains '.' then s else s ++ ['.', '0'])

def pushScalar (out : String) : Scalar → String
  | .null => out ++ "null"
  | .bool true => out ++ "true"
  | .bool false => out ++ "false"
  | .int n => out ++ toString n
  | .binary x => out ++ binaryText x
  | .text s => pushText out s
  | .plain s => pushText out s
  | .name s => pushText out s

mutual

def push (out : String) : Datum → String
  | .scalar s => pushScalar out s
  | .list items => (pushItems (out.push '[') items).push ']'
  | .pureList items => (pushItems (out.push '[') items).push ']'
  | .record fields => (pushFields (out.push '\x7b') fields).push '\x7d'

def pushItems (out : String) : List Datum → String
  | [] => out
  | [d] => push out d
  | d :: rest => pushItems ((push out d).push ',') rest

def pushFields (out : String) : List (Scalar × Datum) → String
  | [] => out
  | [f] => pushField out f
  | f :: rest => pushFields ((pushField out f).push ',') rest

def pushField (out : String) : Scalar × Datum → String
  | (k, d) => push ((pushScalar out k).push ':') d

end

def write (d : Datum) : String := push "" d

end Watershed.Json
