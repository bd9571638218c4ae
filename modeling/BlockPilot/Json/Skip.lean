import BlockPilot.Json.Reader

/-!
# Skipping JSON values

A member that no one asks for is skipped rather than read: it may be nested to any depth, hold
numbers of any size and halves of surrogate pairs, and its faults are named a little differently,
for instance a comma too many is a missing value.
-/

namespace BlockPilot.Json

/-- Skips a string whose opening quote has been read. -/
def skipString (fuel : Nat) (s : List Char) : Except JsonFault (List Char) :=
  match fuel, s with
  | 0, _ | _, [] => .error .stringEnds
  | _, '"' :: rest => .ok rest
  | _, '\\' :: [] => .error .stringEnds
  | fuel + 1, '\\' :: 'u' :: rest => do
    let (_, rest) ← readHex4 rest
    skipString fuel rest
  | fuel + 1, '\\' :: c :: rest =>
    if (plainEscape? c).isSome then skipString fuel rest else .error .invalidEscape
  | fuel + 1, c :: rest =>
    if c.toNat < 0x20 then .error .controlCharacter else skipString fuel rest

/-- Skips the digits of an exponent, behind the letter `e`. -/
def skipExponent (s : List Char) : Except JsonFault (List Char) :=
  let digits := (takeSign s).2
  match digits with
  | c :: _ => if isDigit c then .ok (digits.dropWhile isDigit) else .error .invalidNumber
  | [] => .error .invalidNumber

def skipScale : List Char → Except JsonFault (List Char)
  | c :: rest => if c = 'e' ∨ c = 'E' then skipExponent rest else .ok (c :: rest)
  | [] => .ok []

/-- Skips a number whose sign has been read. -/
def skipNumber (s : List Char) : Except JsonFault (List Char) :=
  match readWhole s with
  | .error _ => .error .invalidNumber
  | .ok (_, '.' :: rest) =>
    if rest.takeWhile isDigit = [] then .error .invalidNumber
    else skipScale (rest.dropWhile isDigit)
  | .ok (_, rest) => skipScale rest

/-- An array or object that has been opened. -/
inductive Enclosure where
  | list
  | map
  deriving DecidableEq

namespace Enclosure

def closing : Enclosure → Char
  | .list => ']'
  | .map => '\x7d'

def ends : Enclosure → JsonFault
  | .list => .listEnds
  | .map => .objectEnds

def goesOn : Enclosure → JsonFault
  | .list => .listGoesOn
  | .map => .objectGoesOn

end Enclosure

/-- Skips a key and its colon. -/
def skipKey (s : List Char) : Except JsonFault (List Char) :=
  match skipSpace s with
  | '"' :: rest => do
    let rest ← skipString (rest.length + 1) rest
    readColon rest
  | [] => .error .objectEnds
  | _ => .error .keyExpected

mutual

/-- Skips a value and whatever is left of the enclosures around it, innermost first. A step takes
a character or moves on to one of the others, so three steps for each character suffice. -/
def skipItem (fuel : Nat) (around : List Enclosure) (s : List Char) :
    Except JsonFault (List Char) :=
  match fuel with
  | 0 => .error .valueEnds
  | fuel + 1 =>
    match skipSpace s with
    | [] => .error .valueEnds
    | '[' :: rest => skipOpened fuel .list around rest
    | '\x7b' :: rest => skipOpened fuel .map around rest
    | '"' :: rest => do
      let rest ← skipString (rest.length + 1) rest
      skipBehind fuel around rest
    | '-' :: rest => do
      let rest ← skipNumber rest
      skipBehind fuel around rest
    | c :: rest =>
      if isDigit c then do
        let rest ← skipNumber (c :: rest)
        skipBehind fuel around rest
      else do
        let (_, rest) ← readScalar (c :: rest)
        skipBehind fuel around rest

/-- What follows an opening bracket or brace: its end, or an item. -/
def skipOpened (fuel : Nat) (inside : Enclosure) (around : List Enclosure) (s : List Char) :
    Except JsonFault (List Char) :=
  match fuel, skipSpace s with
  | 0, _ | _, [] => .error inside.ends
  | fuel + 1, c :: rest =>
    if c = inside.closing then skipBehind fuel around rest
    else match inside with
      | .list => skipItem fuel (.list :: around) (c :: rest)
      | .map => do
        let rest ← skipKey (c :: rest)
        skipItem fuel (.map :: around) rest

/-- What follows an item: the end of the enclosure, a comma, or nothing of concern. -/
def skipBehind (fuel : Nat) (around : List Enclosure) (s : List Char) :
    Except JsonFault (List Char) :=
  match around with
  | [] => .ok s
  | inside :: outer =>
    match fuel, skipSpace s with
    | 0, _ | _, [] => .error inside.ends
    | fuel + 1, c :: rest =>
      if c = ',' then match inside with
        | .list => skipItem fuel around rest
        | .map => do
          let rest ← skipKey rest
          skipItem fuel around rest
      else if c = inside.closing then skipBehind fuel outer rest
      else .error inside.goesOn

end

/-- Skips one value. -/
def skipValue (s : List Char) : Except JsonFault (List Char) :=
  skipItem (3 * s.length + 3) [] s

end BlockPilot.Json
