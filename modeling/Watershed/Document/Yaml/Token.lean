import Watershed.Document.Yaml.Flow

namespace Watershed.Yaml

inductive Token
  | documentStart
  | documentEnd
  | blockListStart
  | blockMapStart
  | blockEnd
  | flowListStart
  | flowListEnd
  | flowMapStart
  | flowMapEnd
  | dash
  | comma
  | key
  | value
  | plain (s : String)
  | quoted (s : String)
deriving DecidableEq, Repr

structure Candidate where
  token : Nat
  line : Nat
  column : Nat
  index : Nat
  required : Bool
deriving DecidableEq, Repr

structure Scan where
  rest : List Glyph
  tokens : Array Token
  indents : List Nat
  keyAllowed : Bool
  candidate : Option Candidate
  outer : List (Option Candidate)

namespace Scan

def start (s : List Glyph) : Scan := ⟨s, #[], [], true, none, []⟩

def inFlow (s : Scan) : Bool := !s.outer.isEmpty

def emit (s : Scan) (t : Token) : Scan := { s with tokens := s.tokens.push t }

def innerIndent (s : Scan) : Nat :=
  match s.indents with
  | [] => 0
  | c :: _ => c + 1

/-- Skips spaces, comments and line breaks. A tab may be skipped only where no key can begin. A byte order
mark may start a line, and then takes up a column of it. -/
def skipGap (fuel : Nat) (s : Scan) : Scan :=
  match fuel, s.rest with
  | 0, _ => s
  | _, [] => s
  | fuel + 1, g :: rest =>
    if g.char = ' ' ∨ (g.char = '\t' ∧ (s.inFlow ∨ s.keyAllowed = false)) ∨
        (g.char = byteOrderMark ∧ g.column = 0) then
      skipGap fuel { s with rest := rest }
    else if g.char = '#' then
      skipGap fuel { s with rest := rest.dropWhile fun c => !isBreak c.char }
    else if isBreak g.char then
      skipGap fuel { s with rest := rest, keyAllowed := s.keyAllowed || !s.inFlow }
    else s

def isStale (line index : Nat) (c : Candidate) : Bool :=
  c.line < line || c.index + 1024 < index

def dropStale (line index : Nat) : Option Candidate → Option (Option Candidate)
  | none => some none
  | some c =>
    if isStale line index c then (if c.required then none else some none) else some (some c)

def dropAllStale (s : Scan) (g : Glyph) : Option Scan := do
  let candidate ← dropStale g.line g.index s.candidate
  let outer ← s.outer.mapM (dropStale g.line g.index)
  some { s with candidate := candidate, outer := outer }

def dropCandidate (s : Scan) : Option Scan :=
  match s.candidate with
  | some c => if c.required then none else some { s with candidate := none }
  | none => some s

def markCandidate (s : Scan) (g : Glyph) : Option Scan :=
  if s.keyAllowed then do
    let s ← s.dropCandidate
    let required := s.inFlow = false ∧ s.indents.head? = some g.column
    some { s with candidate := some ⟨s.tokens.size, g.line, g.column, g.index, required⟩ }
  else some s

def openBlock (s : Scan) (column position : Nat) (t : Token) : Scan :=
  if s.inFlow = false ∧ s.indents.all (· < column) then
    { s with
      indents := column :: s.indents
      tokens := s.tokens.insertIdxIfInBounds position t }
  else s

def closeAll (s : Scan) : Scan :=
  { s with indents := [], tokens := s.indents.foldl (fun ts _ => ts.push .blockEnd) s.tokens }

def closeBlocks (s : Scan) (column : Nat) : Scan :=
  if s.inFlow then s
  else
    let closed := s.indents.takeWhile (column < ·)
    { s with
      indents := s.indents.drop closed.length
      tokens := closed.foldl (fun ts _ => ts.push .blockEnd) s.tokens }

def documentMarker (s : Scan) (t : Token) : Option Scan := do
  let s ← (if s.inFlow then s else s.closeAll).dropCandidate
  some { s.emit t with keyAllowed := false, rest := s.rest.drop 3 }

def openBracket (s : Scan) (g : Glyph) (rest : List Glyph) (t : Token) : Option Scan := do
  let s ← s.markCandidate g
  some { s.emit t with
    keyAllowed := true
    candidate := none
    outer := s.candidate :: s.outer
    rest := rest }

def closeBracket (s : Scan) (rest : List Glyph) (t : Token) : Option Scan := do
  let s ← s.dropCandidate
  let s := { s.emit t with keyAllowed := false, rest := rest }
  match s.outer with
  | [] => some s
  | c :: outer => some { s with candidate := c, outer := outer }

def comma (s : Scan) (rest : List Glyph) : Option Scan := do
  let s ← s.dropCandidate
  some { s.emit .comma with keyAllowed := true, rest := rest }

def dash (s : Scan) (g : Glyph) (rest : List Glyph) : Option Scan :=
  if s.inFlow = false ∧ s.keyAllowed = false then none
  else do
    let s ← (s.openBlock g.column s.tokens.size .blockListStart).dropCandidate
    some { s.emit .dash with keyAllowed := true, rest := rest }

def explicitKey (s : Scan) (g : Glyph) (rest : List Glyph) : Option Scan :=
  if s.inFlow = false ∧ s.keyAllowed = false then none
  else do
    let s ← (s.openBlock g.column s.tokens.size .blockMapStart).dropCandidate
    some { s.emit .key with keyAllowed := !s.inFlow, rest := rest }

def colon (s : Scan) (g : Glyph) (rest : List Glyph) : Option Scan :=
  match s.candidate with
  | some c =>
    let s := { s with tokens := s.tokens.insertIdxIfInBounds c.token .key, candidate := none }
    some { (s.openBlock c.column c.token .blockMapStart).emit .value with
      keyAllowed := false
      rest := rest }
  | none =>
    if s.inFlow = false ∧ s.keyAllowed = false then none
    else
      let s := s.openBlock g.column s.tokens.size .blockMapStart
      some { s.emit .value with keyAllowed := !s.inFlow, rest := rest }

def quoted (s : Scan) (g : Glyph) (r : Option (String × List Glyph)) : Option Scan := do
  let s ← s.markCandidate g
  let (text, rest) ← r
  some { s.emit (.quoted text) with keyAllowed := false, rest := rest }

def plain (s : Scan) (g : Glyph) : Option Scan := do
  let s ← s.markCandidate g
  let r ← readPlain s.inFlow s.innerIndent (s.rest.length + 1) [] .none s.rest
  some { s.emit (.plain r.text) with keyAllowed := r.crossed, rest := r.rest }

def isIndicator (c : Char) : Bool := "-?:,[]\x7b\x7d#&*!|>'\"%@\x60".contains c

def beginsPlain (inFlow : Bool) (c : Char) (rest : List Glyph) : Bool :=
  if c = '-' then !(rest.head?.any fun g => isSpace g.char)
  else if c = '?' ∨ c = ':' then !inFlow && !atGap rest
  else !isGap c && !isIndicator c

def next (s : Scan) (g : Glyph) (rest : List Glyph) : Option Scan :=
  let c := g.char
  if atMarker '-' s.rest then s.documentMarker .documentStart
  else if atMarker '.' s.rest then s.documentMarker .documentEnd
  else if c = '[' then s.openBracket g rest .flowListStart
  else if c = '\x7b' then s.openBracket g rest .flowMapStart
  else if c = ']' then s.closeBracket rest .flowListEnd
  else if c = '\x7d' then s.closeBracket rest .flowMapEnd
  else if c = ',' then s.comma rest
  else if c = '-' ∧ atGap rest then s.dash g rest
  else if c = '?' ∧ (s.inFlow ∨ atGap rest) then s.explicitKey g rest
  else if c = ':' ∧ (s.inFlow ∨ atGap rest) then s.colon g rest
  else if c = '\'' then s.quoted g (readSingle (rest.length + 1) [] rest)
  else if c = '"' then s.quoted g (readDouble (rest.length + 1) [] rest)
  else if beginsPlain s.inFlow c rest then s.plain g
  else none

def run : Nat → Scan → Option (Array Token)
  | 0, _ => none
  | fuel + 1, s =>
    let s := s.skipGap (s.rest.length + 1)
    match s.rest with
    | [] => (s.closeAll.dropCandidate).map (·.tokens)
    | g :: rest => do
      let s ← s.dropAllStale g
      run fuel (← (s.closeBlocks g.column).next g rest)

end Scan

def tokens? (s : List Char) : Option (List Token) := do
  let glyphs ← Glyph.ofText? s
  let tokens ← Scan.run (glyphs.length + 1) (.start glyphs)
  some tokens.toList

end Watershed.Yaml
