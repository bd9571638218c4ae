import BlockPilot.Config.Setting
import BlockPilot.Decimal.Reading
import BlockPilot.Json.Scan

/-!
# Words of TOML

Readers for white space, comments, strings, numbers and dates. A reader takes the rest of a text
and gives what it has read with the text behind it, or nothing where the text is wrong.
-/

namespace BlockPilot.Toml

/-! ## White space, comments and lines -/

def isSpace (c : Char) : Bool :=
  c == ' ' || c == '\t'

def skipSpace (s : List Char) : List Char :=
  s.dropWhile isSpace

/-- The characters that comments and strings may hold: a tab, and no other control. -/
def isText (c : Char) : Bool :=
  c == '\t' || (0x20 ≤ c.toNat && c.toNat != 0x7F)

/-- The text behind the end of a line. -/
def readNewline : List Char → Option (List Char)
  | '\n' :: rest => some rest
  | '\r' :: '\n' :: rest => some rest
  | _ => none

/-- The text behind a comment if there is one. -/
def skipComment : List Char → List Char
  | '#' :: rest => rest.dropWhile isText
  | rest => rest

/-- The text behind the end of a line, or the end of the text, perhaps behind a comment. -/
def readLineEnd (s : List Char) : Option (List Char) :=
  match skipComment (skipSpace s) with
  | [] => some []
  | rest => readNewline rest

/-- The text behind white space, comments and ends of lines. -/
def skipFill (fuel : Nat) (s : List Char) : List Char :=
  match fuel with
  | 0 => s
  | fuel + 1 =>
    match readNewline (skipComment (skipSpace s)) with
    | some rest => skipFill fuel rest
    | none => skipSpace s

/-! ## Strings -/

/-- The character that hexadecimal digits stand for. -/
def readCodePoint (count : Nat) (s : List Char) : Option (Char × List Char) :=
  let digits := s.take count
  let n := digits.foldl (fun n c => 16 * n + (Json.hexValue? c).getD 0) 0
  if digits.length = count ∧ digits.all (Json.hexValue? · |>.isSome) ∧ n.isValidChar then
    some (Char.ofNat n, s.drop count)
  else none

/-- The character of an escape, behind its backslash. -/
def readEscape : List Char → Option (Char × List Char)
  | 'b' :: rest => some ('\x08', rest)
  | 't' :: rest => some ('\t', rest)
  | 'n' :: rest => some ('\n', rest)
  | 'f' :: rest => some ('\x0C', rest)
  | 'r' :: rest => some ('\r', rest)
  | '"' :: rest => some ('"', rest)
  | '\\' :: rest => some ('\\', rest)
  | 'u' :: rest => readCodePoint 4 rest
  | 'U' :: rest => readCodePoint 8 rest
  | _ => none

/-- The characters of a string on one line, up to its quote. Each takes a character of the text
at least, so that `fuel` need not exceed its length. -/
def readBasic (fuel : Nat) (s : List Char) : Option (List Char × List Char) :=
  match fuel, s with
  | fuel + 1, c :: rest =>
    if c = '"' then some ([], rest)
    else if c = '\\' then do
      let (c, rest) ← readEscape rest
      let (cs, rest) ← readBasic fuel rest
      some (c :: cs, rest)
    else if isText c then do
      let (cs, rest) ← readBasic fuel rest
      some (c :: cs, rest)
    else none
  | _, _ => none

/-- The characters of a string without escapes on one line, up to its quote. -/
def readLiteral (s : List Char) : Option (List Char × List Char) :=
  let text := s.takeWhile fun c => isText c && c != '\''
  match s.drop text.length with
  | '\'' :: rest => some (text, rest)
  | _ => none

/-- The text behind the white space and the ends of lines that an escaped end of a line takes. -/
def skipEscapedEnd (s : List Char) : Option (List Char) :=
  (readNewline (skipSpace s)).map fun rest =>
    rest.dropWhile fun c => isSpace c || c == '\n' || c == '\r'

/-- The characters of a string of several lines, up to its three quotes; `escapes` says whether it
has escapes. Up to two quotes may stand inside, and in front of the end. -/
def readLines (quote : Char) (escapes : Bool) (fuel : Nat) (s : List Char) :
    Option (List Char × List Char) :=
  match fuel, s with
  | fuel + 1, c :: rest =>
    let goOn (read : List Char) (rest : List Char) : Option (List Char × List Char) := do
      let (cs, rest) ← readLines quote escapes fuel rest
      some (read ++ cs, rest)
    if c = quote then
      let count := (s.takeWhile (· == quote)).length
      if count < 3 then goOn (List.replicate count quote) (s.drop count)
      else if count ≤ 5 then some (List.replicate (count - 3) quote, s.drop count)
      else none
    else if c = '\\' && escapes then
      match skipEscapedEnd rest with
      | some rest => goOn [] rest
      | none => do
        let (c, rest) ← readEscape rest
        goOn [c] rest
    else if isText c then goOn [c] rest
    else do
      let rest ← readNewline s
      goOn ['\n'] rest
  | _, _ => none

/-- A string of several lines behind its three quotes; an end of a line there does not count. -/
def readMultiline (quote : Char) (escapes : Bool) (s : List Char) :
    Option (List Char × List Char) :=
  let s := (readNewline s).getD s
  readLines quote escapes (s.length + 1) s

def readString : List Char → Option (List Char × List Char)
  | '"' :: '"' :: '"' :: rest => readMultiline '"' true rest
  | '"' :: rest => readBasic (rest.length + 1) rest
  | '\'' :: '\'' :: '\'' :: rest => readMultiline '\'' false rest
  | '\'' :: rest => readLiteral rest
  | _ => none

/-! ## Keys -/

def isBare (c : Char) : Bool :=
  c.isAlphanum || c == '_' || c == '-'

/-- One part of a key: a bare word or a string on one line. -/
def readName : List Char → Option (String × List Char)
  | '"' :: rest => (readBasic (rest.length + 1) rest).map fun (cs, rest) => (.ofList cs, rest)
  | '\'' :: rest => (readLiteral rest).map fun (cs, rest) => (.ofList cs, rest)
  | s =>
    let name := s.takeWhile isBare
    if name = [] then none else some (.ofList name, s.drop name.length)

/-- The parts of a key between its dots, with white space around them. -/
def readKey (fuel : Nat) (s : List Char) : Option (List String × List Char) :=
  match fuel with
  | 0 => none
  | fuel + 1 => do
    let (name, rest) ← readName (skipSpace s)
    match skipSpace rest with
    | '.' :: rest =>
      let (names, rest) ← readKey fuel rest
      some (name :: names, rest)
    | rest => some ([name], rest)

/-! ## Numbers -/

/-- Digits with single underscores between them, which are dropped. -/
def readDigits (isDigit : Char → Bool) (s : List Char) : Option (List Char × List Char) :=
  let shown := s.takeWhile fun c => isDigit c || c == '_'
  let rest := s.drop shown.length
  let isGap (pair : Char × Char) : Bool := pair.1 == '_' && pair.2 == '_'
  if shown = [] ∨ shown.head? = some '_' ∨ shown.getLast? = some '_' ∨
      (shown.zip shown.tail).any isGap then none
  else some (shown.filter (· != '_'), rest)

/-- A decimal number without leading zeros. -/
def readWhole (s : List Char) : Option (List Char × List Char) :=
  match s with
  | '0' :: rest => some (['0'], rest)
  | _ => readDigits isDigit s

/-- Whether an integer is one of 64 bits. -/
def isWord (n : Int) : Bool :=
  decide (Int64.minValue.toInt ≤ n ∧ n ≤ Int64.maxValue.toInt)

/-- An integer in another base behind its mark. -/
def readBased (base : Nat) (isDigit : Char → Bool) (s : List Char) :
    Option (Setting × List Char) := do
  let (digits, rest) ← readDigits isDigit s
  let n : Int := digits.foldl (fun n c => base * n + (Json.hexValue? c).getD 0) 0
  if isWord n then some (.integer n, rest) else none

def readInteger (s : List Char) : Option (Setting × List Char) :=
  match s with
  | '0' :: 'x' :: rest => readBased 16 (Json.hexValue? · |>.isSome) rest
  | '0' :: 'o' :: rest => readBased 8 (fun c => '0' ≤ c && c ≤ '7') rest
  | '0' :: 'b' :: rest => readBased 2 (fun c => c == '0' || c == '1') rest
  | _ => do
    let (negative, body) := takeSign s
    let (digits, rest) ← readWhole body
    let n : Int := if negative then -(ofDigits digits) else ofDigits digits
    if isWord n then some (.integer n, rest) else none

/-- An exponent with its letter, without underscores. -/
def readExponent : List Char → Option (List Char × List Char)
  | c :: rest =>
    if c = 'e' ∨ c = 'E' then
      let (negative, body) := takeSign rest
      (readDigits isDigit body).map fun (digits, rest) =>
        ('e' :: (if negative then '-' :: digits else digits), rest)
    else none
  | [] => none

/-- A number with a point, with an exponent, or one of the words for numbers without digits. A
number too great for a positive one is wrong. -/
def readFloat (s : List Char) : Option (Setting × List Char) := do
  let (negative, body) := takeSign s
  match body with
  | 'i' :: 'n' :: 'f' :: rest => some (.decimal (.infinite negative), rest)
  | 'n' :: 'a' :: 'n' :: rest => some (.decimal .nan, rest)
  | _ =>
    let (whole, rest) ← readWhole body
    let (tail, rest) ← match rest with
      | '.' :: rest => do
        let (fraction, rest) ← readDigits isDigit rest
        match rest with
        | c :: _ =>
          if c = 'e' ∨ c = 'E' then do
            let (exponent, rest) ← readExponent rest
            some ('.' :: fraction ++ exponent, rest)
          else some ('.' :: fraction, rest)
        | [] => some ('.' :: fraction, rest)
      | rest => readExponent rest
    let x ← Binary64.unsigned? negative (whole ++ tail)
    if x = .infinite false then none else some (.decimal x, rest)

/-! ## Dates and times -/

/-- A number of exactly so many digits in a range. -/
def readFixed (count low high : Nat) (s : List Char) : Option (Nat × List Char) :=
  let digits := s.take count
  let n := ofDigits digits
  if digits.length = count ∧ digits.all isDigit ∧ low ≤ n ∧ n ≤ high then some (n, s.drop count)
  else none

def readMark (mark : Char) : List Char → Option (List Char)
  | c :: rest => if c = mark then some rest else none
  | [] => none

def daysIn (year month : Nat) : Nat :=
  if month = 2 then
    if year % 4 = 0 ∧ (year % 100 ≠ 0 ∨ year % 400 = 0) then 29 else 28
  else if month = 4 ∨ month = 6 ∨ month = 9 ∨ month = 11 then 30
  else 31

/-- The text behind a date. -/
def skipDate (s : List Char) : Option (List Char) := do
  let (year, s) ← readFixed 4 0 9999 s
  let (month, s) ← readFixed 2 1 12 (← readMark '-' s)
  let (_, s) ← readFixed 2 1 (daysIn year month) (← readMark '-' s)
  some s

/-- The text behind a time of day. -/
def skipTime (s : List Char) : Option (List Char) := do
  let (_, s) ← readFixed 2 0 23 s
  let (_, s) ← readFixed 2 0 59 (← readMark ':' s)
  let (_, s) ← readFixed 2 0 60 (← readMark ':' s)
  match s with
  | '.' :: rest => if rest.head?.any isDigit then some (rest.dropWhile isDigit) else none
  | s => some s

/-- The text behind an offset from universal time if there is one. -/
def skipOffset (s : List Char) : Option (List Char) :=
  match s with
  | [] => some []
  | c :: rest =>
    if c = 'Z' ∨ c = 'z' then some rest
    else if c = '+' ∨ c = '-' then do
      let (_, rest) ← readFixed 2 0 23 rest
      let (_, rest) ← readFixed 2 0 59 (← readMark ':' rest)
      some rest
    else some s

/-- The text behind a date, a time, or both. -/
def skipMoment (s : List Char) : Option (List Char) :=
  match skipDate s with
  | none => skipTime s
  | some rest => match rest with
    | c :: time =>
      if c = 'T' ∨ c = 't' ∨ c = ' ' then
        match skipTime time with
        | some rest => skipOffset rest
        | none => some rest
      else some rest
    | [] => some []

/-- The key under which a moment keeps its text. -/
def momentKey : String := "$__toml_private_datetime"

/-- A date, a time, or both, as a dictionary with one entry. -/
def readMoment (s : List Char) : Option (Setting × List Char) :=
  (skipMoment s).map fun rest =>
    (.dict [(momentKey, .text (.ofList (s.take (s.length - rest.length))))], rest)

/-! ## Values without parts -/

def readBool : List Char → Option (Setting × List Char)
  | 't' :: 'r' :: 'u' :: 'e' :: rest => some (.bool true, rest)
  | 'f' :: 'a' :: 'l' :: 's' :: 'e' :: rest => some (.bool false, rest)
  | _ => none

/-- A string, a moment, a number or a truth value. -/
def readScalar (s : List Char) : Option (Setting × List Char) :=
  match s with
  | [] => none
  | c :: _ =>
    if c = '"' ∨ c = '\'' then (readString s).map fun (cs, rest) => (.text (.ofList cs), rest)
    else if c = 't' ∨ c = 'f' then readBool s
    else if c = 'i' ∨ c = 'n' then readFloat s
    else (readMoment s).orElse fun _ => (readFloat s).orElse fun _ => readInteger s

end BlockPilot.Toml
