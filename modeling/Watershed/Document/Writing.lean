import Watershed.Document.Json

namespace Watershed.Json

inductive Escaping
  | ascii
  | least
deriving DecidableEq, Repr

def escapeLetter? : Char → Option Char
  | '"' => some '"'
  | '\\' => some '\\'
  | '\x08' => some 'b'
  | '\x0c' => some 'f'
  | '\n' => some 'n'
  | '\r' => some 'r'
  | '\t' => some 't'
  | _ => none

def Escaping.charText : Escaping → Char → List Char
  | .ascii, c => Json.charText c
  | .least, c =>
    match escapeLetter? c with
    | some letter => ['\\', letter]
    | none => if c.toNat < 0x20 then unitText c.toNat else [c]

def quoted (e : Escaping) (s : String) : List Char := '"' :: s.toList.flatMap e.charText ++ ['"']

def scalarChars (e : Escaping) : Scalar → List Char
  | .null => ['n', 'u', 'l', 'l']
  | .bool true => ['t', 'r', 'u', 'e']
  | .bool false => ['f', 'a', 'l', 's', 'e']
  | .int n => (toString n).toList
  | .binary x => (binaryText x).toList
  | .text s => quoted e s
  | .plain s => quoted e s
  | .name s => quoted e s

def joined : List (List Char) → List Char
  | [] => []
  | [s] => s
  | s :: t :: rest => s ++ ',' :: joined (t :: rest)

def chars (e : Escaping) : Datum → List Char
  | .scalar s => scalarChars e s
  | .list items => '[' :: joined (items.map fun d => chars e d) ++ [']']
  | .pureList items => '[' :: joined (items.map fun d => chars e d) ++ [']']
  | .record fields =>
    '\x7b' :: joined (fields.map fun f => scalarChars e f.1 ++ ':' :: chars e f.2) ++ ['\x7d']
decreasing_by
  · rw [Datum.list.sizeOf_spec]
    exact Nat.lt_add_left 1 (List.sizeOf_lt_of_mem ‹_›)
  · rw [Datum.pureList.sizeOf_spec]
    exact Nat.lt_add_left 1 (List.sizeOf_lt_of_mem ‹_›)
  · have := List.sizeOf_lt_of_mem ‹f ∈ fields›
    rw [Prod.mk.sizeOf_spec] at this
    rw [Datum.record.sizeOf_spec]
    omega

def writeWith (e : Escaping) (d : Datum) : String := String.ofList (chars e d)

end Watershed.Json
