import Watershed.Text.Blank
import Watershed.Text.Numeral

namespace Watershed

namespace Instant

def secondsOfDay : Nat := 86400

def nanosOfSecond : Nat := 1000000000

def daysBefore (month : Nat) : Nat := (153 * month + 2) / 5

def isLeap (year : Int) : Bool := year % 4 = 0 && (year % 100 ≠ 0 || year % 400 = 0)

def monthLength (year : Int) (month : Nat) : Nat :=
  if month = 2 then (if isLeap year then 29 else 28)
  else if month = 4 ∨ month = 6 ∨ month = 9 ∨ month = 11 then 30
  else 31

/-- The year is counted from March, so that the day that is put in comes last. -/
def dayOf (year : Int) (month day : Nat) : Int :=
  let y := if month ≤ 2 then year - 1 else year
  365 * y + y / 4 - y / 100 + y / 400 + daysBefore ((month + 9) % 12) + day - 1

-- the years that can be reckoned with
def inReach (day : Int) : Bool := dayOf (-262143) 1 1 ≤ day && day ≤ dayOf 262142 12 31

end Instant

/-- Days are counted from the first of March of the year zero. A second that was put in adds a thousand
million nanoseconds to the one before it. -/
structure Instant where
  day : Int
  second : Nat
  nano : Nat
  reached : Instant.inReach day = true
  second_lt : second < Instant.secondsOfDay
  nano_lt : nano < 2 * Instant.nanosOfSecond
deriving DecidableEq, Repr

namespace Instant

def at? (day : Int) (second nano : Nat) : Option Instant :=
  if h : inReach day = true ∧ second < secondsOfDay ∧ nano < 2 * nanosOfSecond then
    some ⟨day, second, nano, h.1, h.2.1, h.2.2⟩
  else none

def date (day : Int) : Int × Nat × Nat :=
  let era := day / 146097
  let inEra := (day - era * 146097).toNat
  let yearInEra := (inEra - inEra / 1460 + inEra / 36524 - inEra / 146096) / 365
  let inYear := inEra - (365 * yearInEra + yearInEra / 4 - yearInEra / 100)
  let m := (5 * inYear + 2) / 153
  let month := if m < 10 then m + 3 else m - 9
  let year : Int := yearInEra + era * 400
  (if month ≤ 2 then year + 1 else year, month, inYear - daysBefore m + 1)

def padded (width n : Nat) : List Char :=
  let digits := Nat.toDigits 10 n
  List.replicate (width - digits.length) '0' ++ digits

def yearText (year : Int) : List Char :=
  if 0 ≤ year ∧ year ≤ 9999 then padded 4 year.toNat
  else (if year < 0 then '-' else '+') :: padded 4 year.natAbs

def fractionText (nano : Nat) : List Char :=
  if nano = 0 then []
  else if nano % 1000000 = 0 then '.' :: padded 3 (nano / 1000000)
  else if nano % 1000 = 0 then '.' :: padded 6 (nano / 1000)
  else '.' :: padded 9 nano

def text (i : Instant) : String :=
  let (year, month, day) := date i.day
  let extra := i.nano / nanosOfSecond
  String.ofList <|
    yearText year ++ ['-'] ++ padded 2 month ++ ['-'] ++ padded 2 day ++ ['T'] ++
      padded 2 (i.second / 3600) ++ [':'] ++ padded 2 (i.second / 60 % 60) ++ [':'] ++
      padded 2 (i.second % 60 + extra) ++ fractionText (i.nano % nanosOfSecond) ++ ['Z']

def readNumber (width : Nat) (s : List Char) : Option (Nat × List Char) :=
  let s := s.dropWhile Text.isBlank
  let digits := (s.take width).takeWhile Char.isDigit
  (Text.natural? digits).map fun n => (n, s.drop digits.length)

def readDigits (s : List Char) : Option (Nat × List Char) :=
  (Text.natural? (s.takeWhile Char.isDigit)).map fun n => (n, s.dropWhile Char.isDigit)

def readYear (s : List Char) : Option (Int × List Char) :=
  match s.dropWhile Text.isBlank with
  | '-' :: t => (readDigits t).map fun r => (-(r.1 : Int), r.2)
  | '+' :: t => (readDigits t).map fun r => ((r.1 : Int), r.2)
  | t => (readNumber 4 t).map fun r => ((r.1 : Int), r.2)

def readMark (mark : Char) (s : List Char) : Option (List Char) :=
  match s.dropWhile Text.isBlank with
  | c :: rest => if c = mark then some rest else none
  | [] => none

def readFraction : List Char → Option (Nat × List Char)
  | '.' :: s =>
    let digits := s.takeWhile Char.isDigit
    (Text.natural? digits).map fun _ =>
      let kept := digits.take 9
      (((Text.natural? kept).getD 0) * Nat.pow 10 (9 - kept.length), s.drop digits.length)
  | s => some (0, s)

def isUniversal (s : List Char) : Bool := s.map Char.toUpper = ['U', 'T', 'C']

def offsetSign? (c : Char) : Option Int :=
  if c = '+' then some 1 else if c = '-' ∨ c = '\u2212' then some (-1) else none

def readOffset : List Char → Option (Int × List Char)
  | 'Z' :: s => some (0, s)
  | 'z' :: s => some (0, s)
  | sign :: a :: b :: s =>
    if isUniversal [sign, a, b] then some (0, s)
    else
      match s.dropWhile fun c => c = ':' || Text.isBlank c with
      | c :: d :: rest => do
        let sign ← offsetSign? sign
        let hours ← Text.natural? [a, b]
        let minutes ← Text.natural? [c, d]
        if 24 ≤ hours ∨ 60 ≤ minutes then none
        else some (sign * ((hours * 3600 + minutes * 60 : Nat) : Int), rest)
      | _ => none
  | _ => none

def isDateEnd (c : Char) : Bool := c = 'T' || c = 't' || c = ' '

def read? (s : List Char) : Option Instant := do
  let (year, s) ← readYear s
  let (month, s) ← readNumber 2 (← readMark '-' s)
  let (day, s) ← readNumber 2 (← readMark '-' s)
  let s ← if s.head?.any isDateEnd then some (s.drop 1) else none
  let (hour, s) ← readNumber 2 s
  let (minute, s) ← readNumber 2 (← readMark ':' s)
  let (second, s) ← readNumber 2 (← readMark ':' s)
  let (nano, s) ← readFraction s
  let (offset, s) ← readOffset (s.dropWhile Text.isBlank)
  if s.any fun c => !Text.isBlank c then none
  else if month < 1 ∨ 12 < month ∨ day < 1 ∨ monthLength year month < day ∨
      24 ≤ hour ∨ 60 ≤ minute ∨ 60 < second then none
  else
    let extra := second / 60
    let clock : Int := hour * 3600 + minute * 60 + (second - extra)
    let date := dayOf year month day
    let total := date * secondsOfDay + clock - offset
    if inReach date then
      at? (total / secondsOfDay) (total % secondsOfDay).toNat (nano + extra * nanosOfSecond)
    else none

end Instant
end Watershed
