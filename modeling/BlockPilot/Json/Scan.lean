import BlockPilot.Decimal.Reading
import BlockPilot.Json.Fault
import BlockPilot.Json.Value
import BlockPilot.Total

/-!
# Pieces of JSON texts

Readers for white space, words, strings and numbers. A reader takes the rest of a text and gives
what it read with what is left, or the first fault.

A number's digits are gathered into an integer of 64 bits, and digits that no longer fit are
dropped; the integer is rounded to a binary number and then multiplied or divided by a power of
ten. So a number of up to fifteen digits is read exactly, and one of more digits may be off by the
last bit (`scaleByTen`).
-/

namespace BlockPilot.Json

/-- A reader gives what it read and the rest of the text. -/
abbrev Reader (α : Type) := List Char → Except JsonFault (α × List Char)

def isSpace (c : Char) : Bool :=
  c == ' ' || c == '\n' || c == '\t' || c == '\r'

def skipSpace (s : List Char) : List Char :=
  s.dropWhile isSpace

/-- Reads the rest of a word whose first letter has been read. -/
def readWord {α : Type} (value : α) : List Char → Reader α
  | [], s => .ok (value, s)
  | _ :: _, [] => .error .valueEnds
  | w :: word, c :: s => if c = w then readWord value word s else .error .wordExpected

/-! ## Strings -/

def hexValue? (c : Char) : Option Nat :=
  if '0' ≤ c ∧ c ≤ '9' then some (c.toNat - '0'.toNat)
  else if 'a' ≤ c ∧ c ≤ 'f' then some (c.toNat - 'a'.toNat + 10)
  else if 'A' ≤ c ∧ c ≤ 'F' then some (c.toNat - 'A'.toNat + 10)
  else none

/-- The number of bytes that a text takes in UTF-8. -/
def byteLength (s : List Char) : Nat :=
  total Char.utf8Size s

/-- Four hexadecimal digits. A text of fewer than four bytes has ended before them. -/
def readHex4 : Reader Nat
  | a :: b :: c :: d :: rest =>
    match hexValue? a, hexValue? b, hexValue? c, hexValue? d with
    | some a, some b, some c, some d => .ok (((a * 16 + b) * 16 + c) * 16 + d, rest)
    | _, _, _, _ => .error .invalidEscape
  | s => if 4 ≤ byteLength s then .error .invalidEscape else .error .stringEnds

def isHighSurrogate (n : Nat) : Bool := 0xD800 ≤ n && n ≤ 0xDBFF

def isLowSurrogate (n : Nat) : Bool := 0xDC00 ≤ n && n ≤ 0xDFFF

/-- The second half of a surrogate pair whose first half is `high`. -/
def readLowSurrogate (high : Nat) : Reader Char
  | [] => .error .stringEnds
  | '\\' :: [] => .error .stringEnds
  | '\\' :: 'u' :: rest => do
    let (low, rest) ← readHex4 rest
    if isLowSurrogate low then
      .ok (Char.ofNat (0x10000 + (high - 0xD800) * 0x400 + (low - 0xDC00)), rest)
    else .error .loneSurrogate
  | _ => .error .hexEscapeEnds

/-- A character by its code point, after the `u`. -/
def readCodePoint (s : List Char) : Except JsonFault (Char × List Char) := do
  let (n, rest) ← readHex4 s
  if isLowSurrogate n then .error .loneSurrogate
  else if isHighSurrogate n then readLowSurrogate n rest
  else .ok (Char.ofNat n, rest)

/-- The character that a letter after a backslash stands for. -/
def plainEscape? : Char → Option Char
  | '"' => some '"'
  | '\\' => some '\\'
  | '/' => some '/'
  | 'b' => some '\x08'
  | 'f' => some '\x0C'
  | 'n' => some '\n'
  | 'r' => some '\r'
  | 't' => some '\t'
  | _ => none

/-- The character that an escape stands for, after its backslash. -/
def readEscape : Reader Char
  | [] => .error .stringEnds
  | 'u' :: rest => readCodePoint rest
  | c :: rest => match plainEscape? c with
    | some c => .ok (c, rest)
    | none => .error .invalidEscape

/-- The characters of a string and the text behind its closing quote; every step takes at least
one character, so `fuel` need not exceed the length of the text. -/
def readStringChars (fuel : Nat) (s : List Char) : Except JsonFault (List Char × List Char) :=
  match fuel, s with
  | 0, _ | _, [] => .error .stringEnds
  | _, '"' :: rest => .ok ([], rest)
  | fuel + 1, '\\' :: rest => do
    let (c, rest) ← readEscape rest
    let (chars, rest) ← readStringChars fuel rest
    .ok (c :: chars, rest)
  | fuel + 1, c :: rest =>
    if c.toNat < 0x20 then .error .controlCharacter
    else do
      let (chars, rest) ← readStringChars fuel rest
      .ok (c :: chars, rest)

/-- A string whose opening quote has been read. -/
def readString (s : List Char) : Except JsonFault (String × List Char) := do
  let (chars, rest) ← readStringChars (s.length + 1) s
  .ok (String.ofList chars, rest)

/-! ## Numbers -/

/-- Gathers digits behind `n` for as long as the result fits in 64 bits, and counts the digits
that are left. -/
def gather (n : Nat) : List Char → Nat × Nat
  | [] => (n, 0)
  | c :: digits =>
    if n * 10 + digitValue c < UInt64.size then gather (n * 10 + digitValue c) digits
    else (n, digits.length + 1)

/-- Multiplies by a power of ten, or divides by one, in steps of at most `10 ^ 308`. -/
def scaleByTen (x : Binary64) (exponent : Int) : Except JsonFault Binary64 :=
  if 308 < exponent then if x.same (.zero false) then .ok x else .error .numberOutOfRange
  else if 0 ≤ exponent then
    match x.mul (.ofNat (Nat.pow 10 exponent.toNat)) with
    | .infinite _ => .error .numberOutOfRange
    | y => .ok y
  else if -308 ≤ exponent then .ok (x.div (.ofNat (Nat.pow 10 (-exponent).toNat)))
  else if x.same (.zero false) then .ok x
  else scaleByTen (x.div (.ofNat (Nat.pow 10 308))) (exponent + 308)
termination_by (-exponent).toNat
decreasing_by omega

/-- The binary number that a JSON text means by `significand * 10 ^ exponent`. -/
def binaryOf (negative : Bool) (significand : Nat) (exponent : Int) :
    Except JsonFault JsonNumber := do
  let x ← scaleByTen (.ofNat significand) exponent
  .ok (.binary (if negative then x.neg else x))

/-- The digits of an exponent, behind the letter `e`. -/
def readExponent (s : List Char) : Except JsonFault (Int × List Char) :=
  let (negative, s) := takeSign s
  match s with
  | [] => .error .valueEnds
  | c :: _ =>
    if isDigit c then
      let e := ofDigits (s.takeWhile isDigit)
      .ok (if negative then -(e : Int) else e, s.dropWhile isDigit)
    else .error .invalidNumber

/-- The end of a number that is no integer: an exponent, if there is one. -/
def readScale (negative : Bool) (significand : Nat) (exponent : Int) :
    Reader JsonNumber
  | c :: rest =>
    if c = 'e' ∨ c = 'E' then do
      let (e, rest) ← readExponent rest
      let n ← binaryOf negative significand (exponent + e)
      .ok (n, rest)
    else do
      let n ← binaryOf negative significand exponent
      .ok (n, c :: rest)
  | [] => do
    let n ← binaryOf negative significand exponent
    .ok (n, [])

/-- A fraction, behind its point. -/
def readFraction (negative : Bool) (significand : Nat) (exponent : Int) (s : List Char) :
    Except JsonFault (JsonNumber × List Char) :=
  match s.takeWhile isDigit with
  | [] => .error (if s.isEmpty then .valueEnds else .invalidNumber)
  | digits =>
    let (significand, dropped) := gather significand digits
    readScale negative significand (exponent - (digits.length - dropped : Nat))
      (s.dropWhile isDigit)

/-- A number without point and exponent: an integer if it fits in 64 bits, but not a negative
zero. -/
def wholeNumber (negative : Bool) (significand dropped : Nat) : Except JsonFault JsonNumber :=
  if dropped ≠ 0 then binaryOf negative significand dropped
  else if !negative then .ok (.integer significand)
  else if 0 < significand ∧ Int64.minValue.toInt ≤ -significand then .ok (.integer (-significand))
  else .ok (.binary (Binary64.ofNat significand).neg)

/-- The digits in front of the point: a zero, or digits that do not begin with one. -/
def readWhole (s : List Char) : Except JsonFault (List Char × List Char) :=
  match s with
  | [] => .error .valueEnds
  | '0' :: rest => match rest with
    | c :: _ => if isDigit c then .error .invalidNumber else .ok (['0'], rest)
    | [] => .ok (['0'], rest)
  | c :: _ =>
    if isDigit c then .ok (s.takeWhile isDigit, s.dropWhile isDigit) else .error .invalidNumber

/-- A number whose sign has been read. -/
def readNumber (negative : Bool) (s : List Char) : Except JsonFault (JsonNumber × List Char) := do
  let (digits, rest) ← readWhole s
  let (significand, dropped) := gather 0 digits
  match rest with
  | '.' :: rest => readFraction negative significand dropped rest
  | c :: _ =>
    if c = 'e' ∨ c = 'E' then readScale negative significand dropped rest
    else do
      let n ← wholeNumber negative significand dropped
      .ok (n, rest)
  | [] => do
    let n ← wholeNumber negative significand dropped
    .ok (n, rest)

end BlockPilot.Json
