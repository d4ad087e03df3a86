import Watershed.Decimal.Arith
import Watershed.Text.Numeral

namespace Watershed.Decimal

inductive Fault
  | empty
  | noDigits
  | twoPoints
  | separatorFirst
  | unknownCharacter
  | tooManyDigits
  | roundedOut
  | exponentUnreadable
  | exponentTooLarge (exponent : Nat)
  | tooLarge
deriving DecidableEq, Repr

def Fault.message : Fault → String
  | .empty => "Invalid decimal: empty"
  | .noDigits => "Invalid decimal: no digits found"
  | .twoPoints => "Invalid decimal: two decimal points"
  | .separatorFirst => "Invalid decimal: must start lead with a number"
  | .unknownCharacter => "Invalid decimal: unknown character"
  | .tooManyDigits => "Invalid decimal: overflow from too many digits"
  | .roundedOut => "Invalid decimal: overflow from mantissa after rounding"
  | .exponentUnreadable => "Failed to parse"
  | .exponentTooLarge e =>
    "Scale exceeds the maximum precision allowed: " ++ String.ofList (Nat.toDigits 10 e) ++ " > 28"
  | .tooLarge => "Number exceeds maximum value that can be represented."

def Fault.ofChar (c : Char) : Fault :=
  if c = '.' then .twoPoints else if c = '_' then .separatorFirst else .unknownCharacter

structure Numeral where
  pointSeen : Bool
  digitSeen : Bool
  mantissa : Nat
  scale : Nat

def checkTail : List Char → Except Fault Unit
  | [] => .ok ()
  | c :: s =>
    if (Text.digit? c).isSome ∨ c = '_' then checkTail s else .error (Fault.ofChar c)

def Numeral.roundBy (n : Numeral) (d : Nat) (tail : List Char) : Except Fault Numeral := do
  let up := if 5 ≤ d then n.mantissa + 1 else n.mantissa
  let rounded ←
    if up < mantissaBound then pure { n with mantissa := up }
    else if n.scale = 0 then .error .roundedOut
    else pure { n with mantissa := (up + 4) / 10, scale := n.scale - 1 }
  checkTail tail
  pure rounded

/-- Mantissas below it are short: without its last digit, a short mantissa is less than a tenth of two to
the 64th by more than 255. -/
def shortBound : Nat := 18446744073709549060

def Numeral.read : Numeral → List Char → Except Fault Numeral
  | n, [] => if n.digitSeen then .ok n else .error .noDigits
  | n, c :: s =>
    match Text.digit? c with
    | some d =>
      if n.pointSeen ∧ scaleMax ≤ n.scale then n.roundBy d s
      else if mantissaBound ≤ n.mantissa * 10 + d then
        if n.pointSeen then n.roundBy d s else .error .tooManyDigits
      else
        Numeral.read ⟨n.pointSeen, true, n.mantissa * 10 + d, if n.pointSeen then n.scale + 1 else 0⟩ s
    | none =>
      if c = '.' ∧ n.pointSeen = false then Numeral.read { n with pointSeen := true } s
      else if c = '_' ∧ n.digitSeen then
        if n.pointSeen ∧ scaleMax ≤ n.scale ∧ n.mantissa < shortBound then n.roundBy 0 s
        else Numeral.read n s
      else .error (Fault.ofChar c)

def Numeral.toDecimal (negative : Bool) (n : Numeral) : Except Fault Decimal :=
  match mk? (negative && n.mantissa ≠ 0) n.mantissa n.scale with
  | some d => .ok d
  | none => .error .tooManyDigits

def readPlain (s : List Char) : Except Fault Decimal := do
  match s with
  | [] => .error .empty
  | '-' :: t => (← Numeral.read ⟨false, false, 0, 0⟩ t).toDecimal true
  | '+' :: t => (← Numeral.read ⟨false, false, 0, 0⟩ t).toDecimal false
  | t => (← Numeral.read ⟨false, false, 0, 0⟩ t).toDecimal false

def rescaleDown (d : Decimal) (scale : Nat) : Nat :=
  let k := Nat.pow 10 (d.scale - scale)
  (2 * d.mantissa + k) / (2 * k)

def shiftDown (d : Decimal) (e : Nat) : Except Fault Decimal :=
  if scaleMax < e then .error (.exponentTooLarge e)
  else
    let m := if scaleMax < d.scale + e then rescaleDown d (scaleMax - e) else d.mantissa
    match mk? d.negative m (min scaleMax (d.scale + e)) with
    | some r => .ok r
    | none => .error .tooLarge

def shiftUp (d : Decimal) (e : Nat) : Except Fault Decimal :=
  if d.scale < e ∧ scaleMax < e then .error (.exponentTooLarge e)
  else
    match mk? d.negative (d.mantissa * Nat.pow 10 (e - d.scale)) (d.scale - e) with
    | some r => .ok r
    | none => .error .tooLarge

def exponent? (s : List Char) : Option Nat :=
  (Text.count? s).bind fun c => if c.val < 4294967296 then some c.val else none

def isExponentMark (c : Char) : Bool := c = 'e' || c = 'E'

def readScientific (s : List Char) : Except Fault Decimal := do
  let base ← readPlain (s.takeWhile fun c => !isExponentMark c)
  let (negative, digits) :=
    match (s.dropWhile fun c => !isExponentMark c).drop 1 with
    | '-' :: t => (true, t)
    | t => (false, t)
  match exponent? digits with
  | none => .error .exponentUnreadable
  | some e => if negative then shiftDown base e else shiftUp base e

def read (s : List Char) : Except Fault Decimal :=
  match readPlain s with
  | .ok d => .ok d
  | .error e => if s.any isExponentMark then readScientific s else .error e

end Watershed.Decimal
