import Watershed.Decimal.Reader
import Watershed.Text.Blank
import Watershed.Text.Quoted

namespace Watershed

structure RatioSeries where
  ratios : List Decimal
deriving DecidableEq, Repr

namespace RatioSeries

def empty : RatioSeries := ⟨[]⟩

instance : Inhabited RatioSeries := ⟨empty⟩

def length (s : RatioSeries) : Nat := s.ratios.length

def ratioFor (s : RatioSeries) (round : Count) : Decimal :=
  match round.val with
  | 0 => 1
  | n + 1 => s.ratios[n]?.getD 1

inductive Fault
  | notRatio (position : Nat) (token : List Char) (fault : Decimal.Fault)
  | negative (position : Nat) (ratio : Decimal)
deriving DecidableEq, Repr

def Fault.message : Fault → String
  | .notRatio position token fault =>
    "entry " ++ toString position ++ " (" ++ String.ofList (Text.quote token) ++
      ") is not a ratio: " ++ fault.message
  | .negative position ratio =>
    "entry " ++ toString position ++ " is negative (" ++ ratio.text ++ ")"

def splitAtCommas (s : List Char) : List (List Char) :=
  match s with
  | [] => [[]]
  | c :: t =>
    if c = ',' then [] :: splitAtCommas t
    else
      match splitAtCommas t with
      | [] => [[c]]
      | piece :: rest => (c :: piece) :: rest

def readRatio (position : Nat) (token : List Char) : Except Fault Decimal :=
  match Decimal.read token with
  | .error e => .error (.notRatio position token e)
  | .ok r => if r.negative then .error (.negative position r) else .ok r

def readFrom (position : Nat) : List (List Char) → Except Fault (List Decimal)
  | [] => .ok []
  | piece :: rest => do
    let r ← readRatio position (Text.trim piece)
    let rs ← readFrom (position + 1) rest
    pure (r :: rs)

def read (s : List Char) : Except Fault RatioSeries :=
  if Text.trim s = [] then .ok empty else (readFrom 0 (splitAtCommas s)).map RatioSeries.mk

end RatioSeries
end Watershed
