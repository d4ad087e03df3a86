import Watershed.Decimal.Binary64

namespace Watershed

inductive Scalar
  | null
  | bool (b : Bool)
  | int (n : Int)
  | binary (x : Binary64)
  | text (s : String)
  | plain (s : String)
  | name (s : String)
deriving DecidableEq, Repr

inductive Datum
  | scalar (s : Scalar)
  | list (items : List Datum)
  | pureList (items : List Datum)
  | record (fields : List (Scalar × Datum))
deriving Inhabited

namespace Datum

def null : Datum := .scalar .null

def bool (b : Bool) : Datum := .scalar (.bool b)

def int (n : Int) : Datum := .scalar (.int n)

def text (s : String) : Datum := .scalar (.text s)

def count (c : Count) : Datum := int c.val

def named (fields : List (String × Datum)) : Datum :=
  .record (fields.map fun f => (.name f.1, f.2))

def asKey : Datum → Scalar
  | .scalar s => s
  | _ => .null

end Datum
end Watershed
