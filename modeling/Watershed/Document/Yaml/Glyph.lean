import Watershed.Count

namespace Watershed.Yaml

structure Glyph where
  char : Char
  line : Nat
  column : Nat
  index : Nat
deriving DecidableEq, Repr

def byteOrderMark : Char := '\ufeff'

def isAllowed (c : Char) : Bool :=
  let n := c.toNat
  c = '\t' || c = '\n' || c = '\r' || n = 0x85 || (0x20 ≤ n && n ≤ 0x7E) ||
    (0xA0 ≤ n && n ≤ 0xFFFD) || 0x10000 ≤ n

def joinBreaks : List Char → List Char
  | [] => []
  | '\r' :: '\n' :: s => '\n' :: joinBreaks s
  | '\r' :: s => '\n' :: joinBreaks s
  | c :: s => (if c.toNat = 0x85 then '\n' else c) :: joinBreaks s

def isBreak (c : Char) : Bool := c = '\n' || c = '\u2028' || c = '\u2029'

def isSpace (c : Char) : Bool := c = ' ' || c = '\t'

def isGap (c : Char) : Bool := isSpace c || isBreak c

namespace Glyph

def placeFrom (line column index : Nat) : List Char → List Glyph
  | [] => []
  | c :: s =>
    ⟨c, line, column, index⟩ ::
      if isBreak c then placeFrom (line + 1) 0 (index + c.utf8Size) s
      else placeFrom line (column + 1) (index + c.utf8Size) s

def ofText? (s : List Char) : Option (List Glyph) :=
  if s.all isAllowed then some (placeFrom 0 0 0 (joinBreaks s)) else none

end Glyph

def atGap : List Glyph → Bool
  | [] => true
  | g :: _ => isGap g.char

def atMarker (mark : Char) : List Glyph → Bool
  | a :: b :: c :: rest =>
    a.column = 0 && a.char = mark && b.char = mark && c.char = mark && atGap rest
  | _ => false

def atDocumentMarker (s : List Glyph) : Bool := atMarker '-' s || atMarker '.' s

end Watershed.Yaml
