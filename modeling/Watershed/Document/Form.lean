import Watershed.Board
import Watershed.Document.Datum
import Watershed.Document.Plain

namespace Watershed

namespace Scalar

def text? : Scalar → Option String
  | .text s => some s
  | .plain s => some s
  | .name s => some s
  | _ => none

def nameCount? (s : String) : Option Count :=
  match s.toList with
  | ['0'] => some 0
  | '0' :: _ => none
  | cs => (Text.natural? cs).bind Count.ofNat?

def count? : Scalar → Option Count
  | .int n => Count.ofInt? n
  | .plain s => (Plain.natural? s.toList).bind Count.ofNat?
  | .name s => nameCount? s
  | _ => none

def word? {α : Type} (all : List α) (word : α → String) (s : Scalar) : Option α :=
  s.text?.bind fun t => all.find? (word · = t)

end Scalar

namespace Datum

def isNothing : Datum → Bool
  | .scalar .null => true
  | .scalar (.plain s) => Plain.isNothing s
  | _ => false

def isAbsent : Datum → Bool
  | .scalar (.plain s) => s = ""
  | _ => false

def text? : Datum → Option String
  | .scalar s => s.text?
  | _ => none

def bool? : Datum → Option Bool
  | .scalar (.bool b) => some b
  | .scalar (.plain s) => Plain.bool? s
  | _ => none

def count? : Datum → Option Count
  | .scalar s => s.count?
  | _ => none

def integer? : Datum → Option Int
  | .scalar (.int n) => some n
  | .scalar (.plain s) => Plain.integer? s.toList
  | _ => none

def coordinate? (d : Datum) : Option Coordinate := d.integer?.bind Coordinate.ofInt?

def decimal? : Datum → Option Decimal
  | .scalar (.text s) => (Decimal.read s.toList).toOption
  | .scalar (.int n) => Plain.wholeDecimal? n
  | .scalar (.binary x) => x.toDecimal.toOption
  | .scalar (.plain s) => Plain.decimal? s
  | _ => none

def uuid? : Datum → Option Uuid
  | .scalar s => s.text?.bind fun t => Uuid.read? t.toList
  | _ => none

def word? {α : Type} (all : List α) (word : α → String) : Datum → Option α
  | .scalar s => s.word? all word
  | .record [(.name s, .scalar .null)] => (Scalar.name s).word? all word
  | _ => none

def option? {α : Type} (read : Datum → Option α) (d : Datum) : Option (Option α) :=
  if d.isNothing then some none else (read d).map some

def list? {α : Type} (read : Datum → Option α) : Datum → Option (List α)
  | .list items => items.mapM read
  | .pureList items => items.mapM read
  | d => if d.isAbsent then some [] else none

def roll? {κ ν : Type} [Key κ] (readKey : Scalar → Option κ) (read : Datum → Option ν) :
    Datum → Option (Roll (κ × ν))
  | .record fields =>
    (fields.mapM fun (k, d) => do some (← readKey k, ← read d)).map Roll.ofList
  | d => if d.isAbsent then some .empty else none

end Datum

structure Form where
  fields : List (String × Datum)
  byName : Bool

namespace Form

def known? (names : List String) : List (Scalar × Datum) → Option (List (String × Datum))
  | [] => some []
  | (k, d) :: rest => do
    let name ← k.text?
    let others ← known? names rest
    if names.contains name then
      if others.any (·.1 = name) then none else some ((name, d) :: others)
    else some others

def ofDatum? (names : List String) : Datum → Option Form
  | .record fields => (known? names fields).map fun fs => ⟨fs, true⟩
  | .list items => if items.length ≤ names.length then some ⟨names.zip items, false⟩ else none
  | d => if d.isAbsent then some ⟨[], true⟩ else none

def require {α : Type} (f : Form) (name : String) (read : Datum → Option α) : Option α :=
  (f.fields.lookup name).bind read

def optional {α : Type} (f : Form) (name : String) (read : Datum → Option α) : Option (Option α) :=
  match f.fields.lookup name with
  | some d => d.option? read
  | none => if f.byName then some none else none

def withDefault {α : Type} (f : Form) (name : String) (standard : α) (read : Datum → Option α) :
    Option α :=
  match f.fields.lookup name with
  | some d => read d
  | none => some standard

end Form
end Watershed
