import BlockPilot.Json.Scan

/-!
# Reading JSON values

A value is read with some *room*: the number of arrays and objects that may still be opened, one
inside the other. A whole text has room for `Json.depthLimit` of them.
-/

namespace BlockPilot.Json

/-- How many arrays and objects may be open at the same time. -/
def depthLimit : Nat := 127

/-! ## Items and members

Both walks take a step for every item or member and thread a state through them; an item takes at
least one character, so `fuel` need not exceed the length of the text. -/

/-- Walks the items of an array behind its bracket, or behind an item when `first` is false. -/
def walkItems {σ : Type} (step : σ → Reader σ) (fuel : Nat) (first : Bool)
    (state : σ) (s : List Char) : Except JsonFault (σ × List Char) :=
  match fuel, skipSpace s with
  | _, [] => .error .listEnds
  | 0, _ => .error .listEnds
  | _, ']' :: rest => .ok (state, rest)
  | fuel + 1, c :: rest =>
    if first then do
      let (state, rest) ← step state (c :: rest)
      walkItems step fuel false state rest
    else if c = ',' then
      match skipSpace rest with
      | [] => .error .valueEnds
      | ']' :: _ => .error .trailingComma
      | rest => do
        let (state, rest) ← step state rest
        walkItems step fuel false state rest
    else .error .listGoesOn

/-- Walks the members of an object behind its brace, or behind a member when `first` is false.
The step gets the key and the text behind it, colon included. -/
def walkMembers {σ : Type} (step : σ → String → Reader σ) (fuel : Nat)
    (first : Bool) (state : σ) (s : List Char) : Except JsonFault (σ × List Char) :=
  match fuel, skipSpace s with
  | _, [] => .error .objectEnds
  | 0, _ => .error .objectEnds
  | _, '\x7d' :: rest => .ok (state, rest)
  | fuel + 1, c :: rest =>
    if first then
      if c = '"' then do
        let (key, rest) ← readString rest
        let (state, rest) ← step state key rest
        walkMembers step fuel false state rest
      else .error .keyExpected
    else if c = ',' then
      match skipSpace rest with
      | [] => .error .valueEnds
      | '"' :: rest => do
        let (key, rest) ← readString rest
        let (state, rest) ← step state key rest
        walkMembers step fuel false state rest
      | '\x7d' :: _ => .error .trailingComma
      | _ => .error .keyExpected
    else .error .objectGoesOn

/-- Reads the colon behind a key. -/
def readColon (s : List Char) : Except JsonFault (List Char) :=
  match skipSpace s with
  | ':' :: rest => .ok rest
  | [] => .error .objectEnds
  | _ => .error .colonExpected

/-! ## Values -/

/-- A value that is neither an array nor an object; the text begins with it. -/
def readScalar : Reader Json
  | [] => .error .valueEnds
  | 'n' :: rest => readWord .null ['u', 'l', 'l'] rest
  | 't' :: rest => readWord (.bool true) ['r', 'u', 'e'] rest
  | 'f' :: rest => readWord (.bool false) ['a', 'l', 's', 'e'] rest
  | '"' :: rest => do
    let (s, rest) ← readString rest
    .ok (.string s, rest)
  | '-' :: rest => do
    let (n, rest) ← readNumber true rest
    .ok (.number n, rest)
  | c :: rest =>
    if isDigit c then do
      let (n, rest) ← readNumber false (c :: rest)
      .ok (.number n, rest)
    else .error .valueExpected

/-- A value with room for `room` more arrays and objects. -/
def readValue (room : Nat) (s : List Char) : Except JsonFault (Json × List Char) :=
  match skipSpace s with
  | '[' :: rest => match room with
    | 0 => .error .tooDeep
    | room + 1 => do
      let step := fun (items : List Json) s => do
        let (item, rest) ← readValue room s
        .ok (item :: items, rest)
      let (items, rest) ← walkItems step (rest.length + 1) true [] rest
      .ok (.array items.reverse, rest)
  | '\x7b' :: rest => match room with
    | 0 => .error .tooDeep
    | room + 1 => do
      let step := fun (members : List (String × Json)) key s => do
        let rest ← readColon s
        let (value, rest) ← readValue room rest
        .ok (Keyed.insert key value members, rest)
      let (members, rest) ← walkMembers step (rest.length + 1) true [] rest
      .ok (.object members, rest)
  | rest => readScalar rest

/-- Applies a reader to a whole text; nothing but space may follow. -/
def readText {α : Type} (reader : Reader α) (text : String) :
    Except JsonFault α := do
  let (value, rest) ← reader text.toList
  match skipSpace rest with
  | [] => .ok value
  | _ => .error .trailingCharacters

/-- The value that a text holds. -/
def parse (text : String) : Except JsonFault Json :=
  readText (readValue depthLimit) text

/-! ## Values of one kind -/

/-- What a value is called where another kind of value was expected. -/
def found : Json → Found
  | .null => .null
  | .bool b => .bool b
  | .number (.integer n) => .integer n
  | .number (.binary x) => .binary x
  | .string s => .string s
  | .array _ => .sequence
  | .object _ => .map

/-- The fault of a text whose next value is not of the expected kind. The value is read as far as
its name needs it, and a fault on the way comes first. -/
def wrongTypeAt (expected : String) (s : List Char) : JsonFault :=
  match skipSpace s with
  | '[' :: _ => .wrongType .sequence expected
  | '\x7b' :: _ => .wrongType .map expected
  | rest => match readScalar rest with
    | .ok (v, _) => .wrongType v.found expected
    | .error fault => fault

/-- The members of an object, with room for `room` arrays and objects, itself included. -/
def readObject (room : Nat) (s : List Char) :
    Except JsonFault (List (String × Json) × List Char) :=
  match skipSpace s with
  | '\x7b' :: _ => do
    match ← readValue room s with
    | (.object members, rest) => .ok (members, rest)
    | (_, _) => .error (wrongTypeAt "a map" s)
  | _ => .error (wrongTypeAt "a map" s)

/-- A string; `expected` says what it stands for. -/
def readStringAs (expected : String) (s : List Char) : Except JsonFault (String × List Char) :=
  match skipSpace s with
  | '"' :: rest => readString rest
  | _ => .error (wrongTypeAt expected s)

/-- A natural number of 64 bits. -/
def readNatural (expected : String) (s : List Char) : Except JsonFault (Nat × List Char) := do
  let rest := skipSpace s
  let natural : JsonNumber → Except JsonFault Nat := fun n => match n with
    | .integer n =>
      if 0 ≤ n then .ok n.toNat else .error (.wrongValue (.integer n) expected)
    | .binary x => .error (.wrongType (.binary x) expected)
  match rest with
  | '-' :: rest => do
    let (n, rest) ← readNumber true rest
    let n ← natural n
    .ok (n, rest)
  | c :: _ =>
    if isDigit c then do
      let (n, rest) ← readNumber false rest
      let n ← natural n
      .ok (n, rest)
    else .error (wrongTypeAt expected s)
  | [] => .error .valueEnds

end BlockPilot.Json
