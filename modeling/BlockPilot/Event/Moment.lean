import BlockPilot.Decimal.Layout
import BlockPilot.Decimal.Reading
import BlockPilot.Text.Blank

/-!
# Moments

A moment is a date of the Gregorian calendar and a time of day, to the nanosecond, in universal
time. A second that ends a minute may be leap. Its text has the date and the time in digits, joined
by a `T`, and a `Z` behind them; a text that is read may also give an offset from universal time
and may leave out leading zeros.
-/

namespace BlockPilot

structure Date where
  year : Int
  month : Nat
  day : Nat
  deriving DecidableEq

namespace Date

def isLeap (year : Int) : Bool :=
  year % 4 == 0 && (year % 100 != 0 || year % 400 == 0)

def daysIn (year : Int) (month : Nat) : Nat :=
  if month = 2 then if isLeap year then 29 else 28
  else if month = 4 ∨ month = 6 ∨ month = 9 ∨ month = 11 then 30
  else 31

def firstYear : Int := -262143

def lastYear : Int := 262142

/-- The date, if there is one. -/
def of? (year : Int) (month day : Nat) : Option Date :=
  if firstYear ≤ year ∧ year ≤ lastYear ∧ 1 ≤ month ∧ month ≤ 12 ∧ 1 ≤ day ∧
      day ≤ daysIn year month then
    some ⟨year, month, day⟩
  else none

/-- The next day. -/
def next? (d : Date) : Option Date :=
  if d.day < daysIn d.year d.month then some { d with day := d.day + 1 }
  else if d.month < 12 then some ⟨d.year, d.month + 1, 1⟩
  else of? (d.year + 1) 1 1

/-- The day before. -/
def previous? (d : Date) : Option Date :=
  if 1 < d.day then some { d with day := d.day - 1 }
  else if 1 < d.month then some ⟨d.year, d.month - 1, daysIn d.year (d.month - 1)⟩
  else of? (d.year - 1) 12 31

end Date

structure Moment where
  date : Date
  /-- The second of the day, the last one of its minute where a leap second follows it. -/
  second : Nat
  leap : Bool
  nanosecond : Nat
  deriving DecidableEq

inductive MomentFault where
  | outOfRange
  | impossible
  | invalid
  | tooShort
  | tooLong
  deriving DecidableEq

def MomentFault.message : MomentFault → String
  | .outOfRange => "input is out of range"
  | .impossible => "no possible date and time matching input"
  | .invalid => "input contains invalid characters"
  | .tooShort => "premature end of input"
  | .tooLong => "trailing input"

namespace Moment

/-! ## Text -/

/-- A number with leading zeros up to a width. -/
def padded (width n : Nat) : List Char :=
  let digits := decimalText n
  List.replicate (width - digits.length) '0' ++ digits

/-- Four digits of a year, and a sign in front of the years that have no four digits. -/
def yearText (year : Int) : List Char :=
  if 0 ≤ year ∧ year ≤ 9999 then padded 4 year.toNat
  else (if year < 0 then '-' else '+') :: padded 4 year.natAbs

/-- The time of day in hours, minutes and seconds. -/
def clockText (m : Moment) : List Char :=
  let seconds := m.second % 60 + (if m.leap then 1 else 0)
  padded 2 (m.second / 3600) ++ ':' :: padded 2 (m.second / 60 % 60) ++ ':' :: padded 2 seconds

/-- Three, six or nine digits of a second, as many as it takes. -/
def fractionText (n : Nat) : List Char :=
  if n = 0 then []
  else if n % 1000000 = 0 then '.' :: padded 3 (n / 1000000)
  else if n % 1000 = 0 then '.' :: padded 6 (n / 1000)
  else '.' :: padded 9 n

def text (m : Moment) : List Char :=
  yearText m.date.year ++ '-' :: padded 2 m.date.month ++ '-' :: padded 2 m.date.day ++
    'T' :: m.clockText ++ fractionText m.nanosecond ++ ['Z']

/-! ## Reading -/

/-! A reader gives a part of a moment and the rest of the text. -/

/-- At least one digit, and as many as the width allows; a number has to fit in 63 bits. -/
def readNumber (width : Option Nat) (s : List Char) : Except MomentFault (Nat × List Char) :=
  match s with
  | [] => .error .tooShort
  | c :: _ =>
    let shown := match width with
      | some n => s.take n
      | none => s
    let digits := shown.takeWhile isDigit
    if !isDigit c then .error .invalid
    else if Int64.maxValue.toInt < ofDigits digits then .error .outOfRange
    else .ok (ofDigits digits, s.drop digits.length)

/-- A number of up to two digits in a range, perhaps behind white space. -/
def readField (low high : Nat) (s : List Char) : Except MomentFault (Nat × List Char) := do
  let (n, rest) ← readNumber (some 2) (s.dropWhile Text.isBlank)
  if low ≤ n ∧ n ≤ high then .ok (n, rest) else .error .outOfRange

/-- A year of four digits, or of any number of digits behind a sign. -/
def readYear (s : List Char) : Except MomentFault (Int × List Char) := do
  let fit (n : Int) : Except MomentFault Int :=
    if Int32.minValue.toInt ≤ n ∧ n ≤ Int32.maxValue.toInt then .ok n else .error .outOfRange
  match s.dropWhile Text.isBlank with
  | '-' :: rest => do
    let (n, rest) ← readNumber none rest
    return (← fit (-n), rest)
  | '+' :: rest => do
    let (n, rest) ← readNumber none rest
    return (← fit n, rest)
  | rest => do
    let (n, rest) ← readNumber (some 4) rest
    return (← fit n, rest)

/-- A sign, perhaps behind white space. -/
def readSign (sign : Char) (s : List Char) : Except MomentFault (List Char) :=
  match s.dropWhile Text.isBlank with
  | [] => .error .tooShort
  | c :: rest => if c = sign then .ok rest else .error .invalid

/-- The digits of a second behind a point; what is beyond the nanoseconds is dropped. -/
def readFraction : List Char → Except MomentFault (Nat × List Char)
  | '.' :: s => do
    let (n, rest) ← readNumber (some 9) s
    let width := s.length - rest.length
    .ok (n * Nat.pow 10 (9 - width), rest.dropWhile isDigit)
  | s => .ok (0, s)

/-- Two digits. -/
def readPair : List Char → Except MomentFault ((Char × Char) × List Char)
  | a :: b :: rest => .ok ((a, b), rest)
  | [a] => if a.toNat < 0x80 then .error .tooShort else .error .invalid
  | [] => .error .tooShort

/-- An offset from universal time in hours and minutes, in minutes. -/
def readHours (s : List Char) : Except MomentFault (Nat × List Char) := do
  let ((a, b), rest) ← readPair s
  if !(isDigit a && isDigit b) then throw .invalid
  let ((c, d), rest) ← readPair (rest.dropWhile fun c => c == ':' || Text.isBlank c)
  if !(isDigit c && isDigit d) then throw .invalid
  if digitValue c < 6 then
    return (60 * ofDigits [a, b] + ofDigits [c, d], rest)
  else throw .outOfRange

/-- The offset from universal time in minutes. -/
def readOffset (s : List Char) : Except MomentFault (Int × List Char) :=
  match s with
  | [] => .error .tooShort
  | c :: rest =>
    if (s.take 3).map Char.toLower = ['u', 't', 'c'] then .ok (0, s.drop 3)
    else if c = 'Z' ∨ c = 'z' then .ok (0, rest)
    else if c = '+' then (readHours rest).map fun (n, rest) => ((n : Int), rest)
    else if c = '-' ∨ c = Char.ofNat 0x2212 then
      (readHours rest).map fun (n, rest) => (-(n : Int), rest)
    else .error .invalid

def readDate (s : List Char) : Except MomentFault ((Int × Nat × Nat) × List Char) := do
  let (year, s) ← readYear s
  let (month, s) ← readField 1 12 (← readSign '-' s)
  let (day, s) ← readField 1 31 (← readSign '-' s)
  return ((year, month, day), s)

/-- The second of the day, with a sixtieth one where it is leap, and the nanosecond. -/
def readTime (s : List Char) : Except MomentFault ((Nat × Nat × Nat) × List Char) := do
  let (hour, s) ← readField 0 23 s
  let (minute, s) ← readField 0 59 (← readSign ':' s)
  let (second, s) ← readField 0 60 (← readSign ':' s)
  let (nanosecond, s) ← readFraction s
  return ((3600 * hour + 60 * minute, second, nanosecond), s)

/-- The moment at which a clock that is ahead by an offset shows the given time. -/
def atOffset? (m : Moment) (offset : Int) : Option Moment :=
  let second := (m.second : Int) - 60 * offset
  let shifted (date : Date) (second : Int) : Moment := { m with date, second := second.toNat }
  if second < 0 then (m.date.previous?).map (shifted · (second + 86400))
  else if 86400 ≤ second then (m.date.next?).map (shifted · (second - 86400))
  else some (shifted m.date second)

/-- The moment that a text gives. -/
def parse (text : String) : Except MomentFault Moment := do
  let ((year, month, day), s) ← readDate text.toList
  let s ← match s with
    | [] => throw .tooShort
    | c :: rest => if c = 'T' ∨ c = 't' ∨ c = ' ' then pure rest else throw .invalid
  let ((minutes, second, nanosecond), s) ← readTime s
  let (offset, s) ← readOffset (s.dropWhile Text.isBlank)
  if s.dropWhile Text.isBlank ≠ [] then throw .tooLong
  match Date.of? year month day with
  | none => throw .outOfRange
  | some date =>
    if 24 * 60 ≤ offset.natAbs then throw .outOfRange
    let m : Moment := ⟨date, minutes + min second 59, second == 60, nanosecond⟩
    match m.atOffset? offset with
    | some m => return m
    | none => throw .impossible

end Moment

end BlockPilot
