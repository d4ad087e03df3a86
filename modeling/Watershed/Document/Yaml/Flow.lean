import Watershed.Document.Yaml.Glyph
import Watershed.Text.Numeral

namespace Watershed.Yaml

structure Gap where
  spaces : List Char
  breaks : List Char

namespace Gap

def none : Gap := ⟨[], []⟩

def add (g : Gap) (c : Char) : Gap :=
  if isBreak c then ⟨[], g.breaks ++ [c]⟩
  else if g.breaks = [] then { g with spaces := g.spaces ++ [c] }
  else g

def fold (g : Gap) : List Char :=
  match g.breaks with
  | [] => g.spaces
  | ['\n'] => [' ']
  | '\n' :: rest => rest
  | breaks => breaks

end Gap

def readGap (g : Gap) : List Glyph → Gap × List Glyph
  | [] => (g, [])
  | c :: s => if isGap c.char then readGap (g.add c.char) s else (g, c :: s)

def tabInIndent (indent : Nat) (crossed : Bool) : List Glyph → Bool
  | [] => false
  | c :: s =>
    if isBreak c.char then tabInIndent indent true s
    else if isSpace c.char then
      (crossed && c.char = '\t' && c.column < indent) || tabInIndent indent crossed s
    else false

def isFlowMark (c : Char) : Bool :=
  c = ',' || c = '[' || c = ']' || c = '\x7b' || c = '\x7d'

def endsPlain (inFlow : Bool) (c : Char) (rest : List Glyph) : Bool :=
  (c = ':' && atGap rest) || (inFlow && isFlowMark c)

def strayColon (inFlow : Bool) (c : Char) (rest : List Glyph) : Bool :=
  inFlow && c = ':' &&
    match rest with
    | [] => false
    | g :: _ => isFlowMark g.char || g.char = '?'

def readWord (inFlow : Bool) (read : List Char) : List Glyph → Option (List Char × List Glyph)
  | [] => some (read, [])
  | c :: s =>
    if isGap c.char then some (read, c :: s)
    else if strayColon inFlow c.char s then none
    else if endsPlain inFlow c.char s then some (read, c :: s)
    else readWord inFlow (c.char :: read) s

structure PlainText where
  text : String
  crossed : Bool
  rest : List Glyph

def readPlain (inFlow : Bool) (indent : Nat) : Nat → List Char → Gap → List Glyph → Option PlainText
  | 0, _, _, _ => none
  | fuel + 1, read, gap, s => do
    let done : PlainText := ⟨String.ofList read.reverse, gap.breaks ≠ [], s⟩
    if atDocumentMarker s ∨ (s.head?.map (·.char)) = some '#' then some done
    else
      let (word, rest) ← readWord inFlow [] s
      if word = [] then some done
      else
        let read := word ++ gap.fold.reverse ++ read
        let done : PlainText := ⟨String.ofList read.reverse, false, rest⟩
        if rest = [] ∨ atGap rest = false then some done
        else if tabInIndent indent false rest then none
        else
          let (gap, rest) := readGap .none rest
          let column := (rest.head?.map (·.column)).getD 0
          if inFlow = false ∧ column < indent then
            some { done with crossed := gap.breaks ≠ [], rest := rest }
          else readPlain inFlow indent fuel read gap rest

def readSingle (fuel : Nat) (read : List Char) (s : List Glyph) : Option (String × List Glyph) :=
  match fuel with
  | 0 => none
  | fuel + 1 =>
    if atDocumentMarker s then none
    else
      match s with
      | [] => none
      | c :: s' =>
        if c.char = '\'' then
          match s' with
          | d :: s'' =>
            if d.char = '\'' then readSingle fuel ('\'' :: read) s''
            else some (String.ofList read.reverse, s')
          | [] => some (String.ofList read.reverse, [])
        else if isGap c.char then
          let (gap, rest) := readGap .none s
          readSingle fuel (gap.fold.reverse ++ read) rest
        else readSingle fuel (c.char :: read) s'

def escaped? (c : Char) : Option Char :=
  match c with
  | '0' => some (Char.ofNat 0)
  | 'a' => some '\x07'
  | 'b' => some '\x08'
  | 't' => some '\t'
  | '\t' => some '\t'
  | 'n' => some '\n'
  | 'v' => some '\x0b'
  | 'f' => some '\x0c'
  | 'r' => some '\r'
  | 'e' => some '\x1b'
  | ' ' => some ' '
  | '"' => some '"'
  | '/' => some '/'
  | '\\' => some '\\'
  | 'N' => some '\u0085'
  | '_' => some '\u00a0'
  | 'L' => some '\u2028'
  | 'P' => some '\u2029'
  | _ => none

def codeLength? (c : Char) : Option Nat :=
  if c = 'x' then some 2 else if c = 'u' then some 4 else if c = 'U' then some 8 else none

def charOfCode? (n : Nat) : Option Char :=
  if n.isValidChar then some (Char.ofNat n) else none

def readCode (length : Nat) (s : List Glyph) : Option (Char × List Glyph) := do
  let digits := (s.take length).map (·.char)
  if digits.length = length then
    let c ← charOfCode? (← Text.naturalIn? 16 digits)
    some (c, s.drop length)
  else none

def readDouble (fuel : Nat) (read : List Char) (s : List Glyph) : Option (String × List Glyph) :=
  match fuel with
  | 0 => none
  | fuel + 1 =>
    if atDocumentMarker s then none
    else
      match s with
      | [] => none
      | c :: s' =>
        if c.char = '"' then some (String.ofList read.reverse, s')
        else if c.char = '\\' then
          match s' with
          | [] => none
          | d :: rest =>
            if isBreak d.char then
              let (gap, rest) := readGap .none rest
              readDouble fuel (gap.breaks.reverse ++ read) rest
            else
              match codeLength? d.char with
              | some n => do
                let (x, rest) ← readCode n rest
                readDouble fuel (x :: read) rest
              | none => do
                let x ← escaped? d.char
                readDouble fuel (x :: read) rest
        else if isGap c.char then
          let (gap, rest) := readGap .none s
          readDouble fuel (gap.fold.reverse ++ read) rest
        else readDouble fuel (c.char :: read) s'

end Watershed.Yaml
