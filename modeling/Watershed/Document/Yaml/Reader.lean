import Watershed.Document.Datum
import Watershed.Document.Yaml.Token

namespace Watershed.Yaml

abbrev Rest := List Token

def absent : Datum := .scalar (.plain "")

def endsItem : Rest → Bool
  | [] => true
  | t :: _ => t = .dash || t = .key || t = .value || t = .blockEnd

def endsField : Rest → Bool
  | [] => true
  | t :: _ => t = .key || t = .value || t = .blockEnd

def endsInBrackets (close : Token) : Rest → Bool
  | [] => true
  | t :: _ => t = .value || t = .comma || t = close

mutual

/-- A node and the tokens after it. A block list that is a field's value need not be indented, and
then opens no block. A step takes a token or goes on to one that does, so that twice the number of
tokens is fuel enough. -/
def readNode : Nat → (inBlock asField : Bool) → Rest → Option (Datum × Rest)
  | 0, _, _, _ => none
  | fuel + 1, inBlock, asField, ts =>
    match ts with
    | .plain s :: ts => some (.scalar (.plain s), ts)
    | .quoted s :: ts => some (.text s, ts)
    | .flowListStart :: ts => readFlowList fuel true [] ts
    | .flowMapStart :: ts => readFlowMap fuel true [] ts
    | .blockListStart :: ts => if inBlock then readBlockList fuel [] ts else none
    | .blockMapStart :: ts => if inBlock then readBlockMap fuel [] ts else none
    | .dash :: _ => if asField then readFlushList fuel [] ts else none
    | _ => none

def readBlockList : Nat → List Datum → Rest → Option (Datum × Rest)
  | 0, _, _ => none
  | fuel + 1, read, ts =>
    match ts with
    | .blockEnd :: ts => some (.pureList read.reverse, ts)
    | .dash :: ts =>
      match ts with
      | .dash :: _ => readBlockList fuel (absent :: read) ts
      | .blockEnd :: _ => readBlockList fuel (absent :: read) ts
      | _ => do
        let (d, ts) ← readNode fuel true false ts
        readBlockList fuel (d :: read) ts
    | _ => none

def readFlushList : Nat → List Datum → Rest → Option (Datum × Rest)
  | 0, _, _ => none
  | fuel + 1, read, ts =>
    match ts with
    | .dash :: ts =>
      if endsItem ts then readFlushList fuel (absent :: read) ts
      else do
        let (d, ts) ← readNode fuel true false ts
        readFlushList fuel (d :: read) ts
    | ts => some (.pureList read.reverse, ts)

def readBlockMap : Nat → List (Scalar × Datum) → Rest → Option (Datum × Rest)
  | 0, _, _ => none
  | fuel + 1, read, ts =>
    match ts with
    | .blockEnd :: ts => some (.record read.reverse, ts)
    | .key :: ts => do
      let (k, ts) ← if endsField ts then some (absent, ts) else readNode fuel true true ts
      match ts with
      | .value :: ts => do
        let (d, ts) ← if endsField ts then some (absent, ts) else readNode fuel true true ts
        readBlockMap fuel ((k.asKey, d) :: read) ts
      | ts => readBlockMap fuel ((k.asKey, absent) :: read) ts
    | _ => none

/-- The items of a list in brackets. An item may be a single field, which is a record of its own. Where
the key of such a field is left out, the token that follows the mark is passed over. -/
def readFlowList : Nat → Bool → List Datum → Rest → Option (Datum × Rest)
  | 0, _, _, _ => none
  | fuel + 1, first, read, ts =>
    match ts with
    | .flowListEnd :: ts => some (.pureList read.reverse, ts)
    | ts => do
      let ts ← if first then some ts else
        match ts with
        | .comma :: ts => some ts
        | _ => none
      match ts with
      | .flowListEnd :: ts => some (.pureList read.reverse, ts)
      | .key :: ts => do
        let (f, ts) ←
          if endsInBrackets .flowListEnd ts then readFlowValue fuel .flowListEnd absent (ts.drop 1)
          else readFlowField fuel .flowListEnd ts
        readFlowList fuel false (.record [f] :: read) ts
      | ts => do
        let (d, ts) ← readNode fuel false false ts
        readFlowList fuel false (d :: read) ts

def readFlowMap : Nat → Bool → List (Scalar × Datum) → Rest → Option (Datum × Rest)
  | 0, _, _, _ => none
  | fuel + 1, first, read, ts =>
    match ts with
    | .flowMapEnd :: ts => some (.record read.reverse, ts)
    | ts => do
      let ts ← if first then some ts else
        match ts with
        | .comma :: ts => some ts
        | _ => none
      match ts with
      | .flowMapEnd :: ts => some (.record read.reverse, ts)
      | .key :: ts => do
        let (f, ts) ←
          if endsInBrackets .flowMapEnd ts then readFlowValue fuel .flowMapEnd absent ts
          else readFlowField fuel .flowMapEnd ts
        readFlowMap fuel false (f :: read) ts
      | ts => do
        let (k, ts) ← readNode fuel false false ts
        readFlowMap fuel false ((k.asKey, absent) :: read) ts

def readFlowField : Nat → Token → Rest → Option ((Scalar × Datum) × Rest)
  | 0, _, _ => none
  | fuel + 1, close, ts => do
    let (k, ts) ← readNode fuel false false ts
    readFlowValue fuel close k ts

def readFlowValue : Nat → Token → Datum → Rest → Option ((Scalar × Datum) × Rest)
  | 0, _, _, _ => none
  | fuel + 1, close, k, ts =>
    match ts with
    | .value :: ts =>
      if endsInBrackets close ts then some ((k.asKey, absent), ts)
      else do
        let (d, ts) ← readNode fuel false false ts
        some ((k.asKey, d), ts)
    | ts => some ((k.asKey, absent), ts)

end

def endsDocument : Rest → Bool
  | [] => true
  | t :: _ => t = .documentStart || t = .documentEnd

def readDocument (ts : Rest) : Option Datum := do
  let fuel := 2 * ts.length + 2
  let (d, rest) ←
    match ts with
    | [] => some (absent, [])
    | .documentStart :: ts => if endsDocument ts then some (absent, ts) else readNode fuel true false ts
    | ts => readNode fuel true false ts
  if rest.all (· = .documentEnd) then some d else none

def read (text : List Char) : Option Datum := do readDocument (← tokens? text)

end Watershed.Yaml
