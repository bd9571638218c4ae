import BlockPilot.Decimal.Layout
import BlockPilot.Json.Value
import BlockPilot.Text.Quoted

/-!
# JSON texts

The compact text of a value has no space at all; the pretty text puts every item on a line of its
own, indented by two spaces for each level, and leaves empty arrays and objects closed.
-/

namespace BlockPilot.Json

/-- The characters by which a string holds one character. -/
def escapeChar (c : Char) : List Char :=
  if c = '"' then ['\\', '"']
  else if c = '\\' then ['\\', '\\']
  else if c = '\x08' then ['\\', 'b']
  else if c = '\x0C' then ['\\', 'f']
  else if c = '\n' then ['\\', 'n']
  else if c = '\r' then ['\\', 'r']
  else if c = '\t' then ['\\', 't']
  else if c.toNat < 0x20 then
    ['\\', 'u', '0', '0', Nat.digitChar (c.toNat / 16), Nat.digitChar (c.toNat % 16)]
  else [c]

/-- A string with its quotes. -/
def stringText (s : String) : List Char :=
  '"' :: s.toList.flatMap escapeChar ++ ['"']

def integerText (n : Int) : List Char :=
  if n < 0 then '-' :: decimalText n.natAbs else decimalText n.natAbs

def numberText : JsonNumber → List Char
  | .integer n => integerText n
  | .binary x => x.toJsonText.toList

def boolText (b : Bool) : List Char :=
  if b then ['t', 'r', 'u', 'e'] else ['f', 'a', 'l', 's', 'e']

/-! ## Compact texts

A value is written in front of the text that follows it. -/

mutual

/-- The text of a value without spaces, in front of `rest`. -/
def compactOnto (rest : List Char) : Json → List Char
  | .null => 'n' :: 'u' :: 'l' :: 'l' :: rest
  | .bool b => boolText b ++ rest
  | .number n => numberText n ++ rest
  | .string s => stringText s ++ rest
  | .array [] => '[' :: ']' :: rest
  | .array (item :: items) => '[' :: compactOnto (compactItems rest items) item
  | .object [] => '\x7b' :: '\x7d' :: rest
  | .object ((key, v) :: members) =>
    '\x7b' :: (stringText key ++ ':' :: compactOnto (compactMembers rest members) v)

/-- The items after the first, with the bracket. -/
def compactItems (rest : List Char) : List Json → List Char
  | [] => ']' :: rest
  | item :: items => ',' :: compactOnto (compactItems rest items) item

/-- The members after the first, with the brace. -/
def compactMembers (rest : List Char) : List (String × Json) → List Char
  | [] => '\x7d' :: rest
  | (key, v) :: members =>
    ',' :: (stringText key ++ ':' :: compactOnto (compactMembers rest members) v)

end

/-- The text of a value without spaces. -/
def compact (v : Json) : String :=
  String.ofList (v.compactOnto [])

/-- The text of a record without spaces, in front of `rest`; each field writes its value in front
of what follows it, and the fields keep their order. -/
def recordOnto (rest : List Char) : List (String × (List Char → List Char)) → List Char
  | [] => '\x7b' :: '\x7d' :: rest
  | (key, write) :: fields =>
    '\x7b' :: (stringText key ++ ':' :: write (others fields))
where
  others : List (String × (List Char → List Char)) → List Char
    | [] => '\x7d' :: rest
    | (key, write) :: fields => ',' :: (stringText key ++ ':' :: write (others fields))

/-- The text of a record of values without spaces. -/
def recordText (fields : List (String × Json)) : String :=
  String.ofList (recordOnto [] (fields.map fun (key, v) => (key, fun rest => v.compactOnto rest)))

/-! ## Pretty texts -/

/-- A line break and the indentation of a level, in front of `rest`. -/
def newline (level : Nat) (rest : List Char) : List Char :=
  '\n' :: (List.replicate (2 * level) ' ' ++ rest)

mutual

/-- The text of a value inside `level` levels with one item a line, in front of `rest`. -/
def prettyOnto (level : Nat) (rest : List Char) : Json → List Char
  | .null => 'n' :: 'u' :: 'l' :: 'l' :: rest
  | .bool b => boolText b ++ rest
  | .number n => numberText n ++ rest
  | .string s => stringText s ++ rest
  | .array [] => '[' :: ']' :: rest
  | .array (item :: items) =>
    '[' :: newline (level + 1) (prettyOnto (level + 1) (prettyItems level rest items) item)
  | .object [] => '\x7b' :: '\x7d' :: rest
  | .object ((key, v) :: members) =>
    '\x7b' :: newline (level + 1) (stringText key ++ ':' :: ' ' ::
      prettyOnto (level + 1) (prettyMembers level rest members) v)

/-- The items after the first, with the bracket. -/
def prettyItems (level : Nat) (rest : List Char) : List Json → List Char
  | [] => newline level (']' :: rest)
  | item :: items =>
    ',' :: newline (level + 1) (prettyOnto (level + 1) (prettyItems level rest items) item)

/-- The members after the first, with the brace. -/
def prettyMembers (level : Nat) (rest : List Char) : List (String × Json) → List Char
  | [] => newline level ('\x7d' :: rest)
  | (key, v) :: members =>
    ',' :: newline (level + 1) (stringText key ++ ':' :: ' ' ::
      prettyOnto (level + 1) (prettyMembers level rest members) v)

end

/-- The text of a value with one item a line. -/
def pretty (v : Json) : String :=
  String.ofList (v.prettyOnto 0 [])

end BlockPilot.Json
