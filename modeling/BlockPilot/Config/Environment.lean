import BlockPilot.Config.Setting
import BlockPilot.Config.Toml.Scan
import BlockPilot.Decimal.Reading
import BlockPilot.Text.Blank
import BlockPilot.Text.Lowercase

/-!
# Settings from the environment

A variable gives a setting when its name begins with `BOTBLOCKS__` in any case; two underscores
divide the names on the way to the setting. Its value may be a truth value, a number, a string or a
character in quotes, a list in brackets or a dictionary in braces. A value that is none of these as
a whole is a text as it stands.
-/

namespace BlockPilot.Environment

/-! ## Values -/

def skipSpace (s : List Char) : List Char :=
  s.dropWhile Text.isAsciiBlank

def isSeparator (c : Char) : Bool :=
  c == ',' || c == '\x7b' || c == '\x7d' || c == '[' || c == ']'

/-- The integer that a text is, behind an optional sign. -/
def integer? (text : String) : Option Setting :=
  let (negative, digits) := takeSign text.toList
  if digits = [] ∨ !digits.all isDigit then none
  else
    let n := ofDigits digits
    if negative then if Int64.minValue.toInt ≤ -n then some (.integer (-n)) else none
    else if n < UInt64.size then some (.natural n) else none

/-- The setting that a word is: a number, or the word itself. -/
def ofWord (word : String) : Setting :=
  let decimal := if word.toList.contains '.' then Binary64.ofText? word else none
  match decimal with
  | some x => .decimal x
  | none => (integer? word).getD (.text word)

/-- A string behind its quote. -/
def readString (s : List Char) : Option (String × List Char) :=
  (Toml.readBasic (s.length + 1) s).map fun (cs, rest) => (.ofList cs, rest)

/-- A key of a dictionary, with white space around it. -/
def readKey (s : List Char) : Option (String × List Char) := do
  let (key, rest) ← match skipSpace s with
    | '"' :: rest => readString rest
    | s =>
      let name := s.takeWhile Toml.isBare
      if name = [] then none else some (String.ofList name, s.drop name.length)
  some (key, skipSpace rest)

mutual

/-- A value with white space around it. Every step takes a character of the text or ends a value,
so that `fuel` need not exceed three times its length. -/
def readValue (fuel : Nat) (s : List Char) : Option (Setting × List Char) :=
  match fuel with
  | 0 => none
  | fuel + 1 => do
    let (v, rest) ← match skipSpace s with
      | '\x7b' :: rest => (readPairs fuel rest).map fun (pairs, rest) =>
          (Setting.dict (pairs.foldl (fun d (key, v) => Keyed.insert key v d) []), rest)
      | '[' :: rest => (readItems fuel rest).map fun (items, rest) => (Setting.list items, rest)
      | '"' :: rest => (readString rest).map fun (text, rest) => (Setting.text text, rest)
      | '\'' :: c :: '\'' :: rest => some (.char c, rest)
      | '\'' :: _ => none
      | 't' :: 'r' :: 'u' :: 'e' :: rest => some (.bool true, rest)
      | 'f' :: 'a' :: 'l' :: 's' :: 'e' :: rest => some (.bool false, rest)
      | s =>
        let word := s.takeWhile (!isSeparator ·)
        some (ofWord (Text.trim (String.ofList word)), s.drop word.length)
    some (v, skipSpace rest)

/-- The items of a list, behind its bracket or behind a comma. -/
def readItems (fuel : Nat) (s : List Char) : Option (List Setting × List Char) :=
  match fuel, s with
  | 0, _ => none
  | _ + 1, ']' :: rest => some ([], rest)
  | fuel + 1, s => do
    let (item, rest) ← readValue fuel s
    match rest with
    | ',' :: rest => (readItems fuel rest).map fun (items, rest) => (item :: items, rest)
    | ']' :: rest => some ([item], rest)
    | _ => none

/-- The pairs of a dictionary, behind its brace or behind a comma. -/
def readPairs (fuel : Nat) (s : List Char) : Option (List (String × Setting) × List Char) :=
  match fuel, s with
  | 0, _ => none
  | _ + 1, '\x7d' :: rest => some ([], rest)
  | fuel + 1, s => do
    let (key, rest) ← readKey s
    let (v, rest) ← readValue fuel (← Toml.readMark '=' rest)
    match rest with
    | ',' :: rest => (readPairs fuel rest).map fun (pairs, rest) => ((key, v) :: pairs, rest)
    | '\x7d' :: rest => some ([(key, v)], rest)
    | _ => none

end

/-- The setting that the value of a variable gives. -/
def ofValue (text : String) : Setting :=
  match readValue (3 * text.length + 3) text.toList with
  | some (v, []) => v
  | _ => .text text

/-! ## Names -/

/-- How the name of a variable begins, in any case. -/
def prefixText : String := "BOTBLOCKS__"

/-- A text with a point for every two underscores. -/
def pointed : List Char → List Char
  | '_' :: '_' :: rest => '.' :: pointed rest
  | c :: rest => c :: pointed rest
  | [] => []

/-- The names on the way to the setting of a variable. -/
def path? (name : String) : Option (List String) :=
  let name := Text.trimChars name.toList
  let start := (name.take prefixText.length).map Char.toUpper
  if start ≠ prefixText.toList then none
  else
    let rest := Text.trimChars (pointed (name.drop prefixText.length))
    let parts := List.splitOn '.' (rest.map Char.toLower)
    if parts.contains [] then none else some (parts.map String.ofList)

/-- A setting at the end of a path of names. -/
def nest (v : Layered) : List String → Layered
  | [] => v
  | name :: path => .dict .environment [(name, nest v path)]

/-- The layer that variables give; they are in the order of their names, and later ones are over
earlier ones. -/
def layer (env : List (String × String)) : Layered :=
  env.foldl (fun below (name, value) =>
    match path? name with
    | some path => below.merge (nest (.ofSetting .environment (ofValue value)) path)
    | none => below) (.dict .environment [])

end BlockPilot.Environment
