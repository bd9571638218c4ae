import BlockPilot.Json.Skip

/-!
# Records in JSON texts

A record with named fields is written as an object, whose unknown members are skipped, or as an
array of its fields in their order. Fields are read as they come, so that the first fault of the
text is reported. A field may be left out unless it is required; a field that occurs twice is a
fault.
-/

namespace BlockPilot.Json

/-- A field of a record that is gathered in a state of type `σ`. -/
structure Field (σ : Type) where
  name : String
  required : Bool
  /-- Reads the field's value and puts it into the state. -/
  read : σ → Reader σ

/-- The record's name in messages and its fields in their order. -/
structure Record (σ : Type) where
  name : String
  fields : List (Field σ)

namespace Record

variable {σ : Type} (r : Record σ)

def expected : String :=
  "struct " ++ r.name

/-- What a message says about an array that is too short. -/
def expectedLength : String :=
  r.expected ++ " with " ++ toString r.fields.length ++ " elements"

/-- One member of the object form: the names read so far and the state. -/
def readMember (state : List String × σ) (key : String) : Reader (List String × σ) := fun s =>
  match r.fields.find? (·.name == key) with
  | none => do
    let rest ← readColon s
    let rest ← skipValue rest
    .ok (state, rest)
  | some field =>
    if state.1.contains key then .error (.duplicateField key)
    else do
      let rest ← readColon s
      let (gathered, rest) ← field.read state.2 rest
      .ok ((key :: state.1, gathered), rest)

/-- The object form, behind its brace. -/
def readMap (start : σ) : Reader σ := fun s => do
  let ((seen, state), rest) ← walkMembers r.readMember (s.length + 1) true ([], start) s
  match r.fields.find? fun field => field.required && !seen.contains field.name with
  | some field => .error (.missingField field.name)
  | none => .ok (state, rest)

/-- The end of the array form: nothing may follow the last field. -/
def endItems (s : List Char) : Except JsonFault (List Char) :=
  match skipSpace s with
  | ']' :: rest => .ok rest
  | ',' :: rest => match skipSpace rest with
    | ']' :: _ => .error .trailingComma
    | _ => .error .trailingCharacters
  | [] => .error .listEnds
  | _ => .error .trailingCharacters

/-- The array form behind its bracket, or behind the field number `index - 1`. -/
def readItems (length : String) : List (Field σ) → Nat → σ → Reader σ
  | [], _, state, s => do
    let rest ← endItems s
    .ok (state, rest)
  | field :: fields, index, state, s =>
    match skipSpace s with
    | [] => .error .listEnds
    | ']' :: rest =>
      if field.required then .error (.wrongLength index length)
      else readItems length fields index state (']' :: rest)
    | c :: rest =>
      if index = 0 then do
        let (state, rest) ← field.read state (c :: rest)
        readItems length fields (index + 1) state rest
      else if c = ',' then
        match skipSpace rest with
        | [] => .error .valueEnds
        | ']' :: _ => .error .trailingComma
        | rest => do
          let (state, rest) ← field.read state rest
          readItems length fields (index + 1) state rest
      else .error .listGoesOn

/-- The record in either form, with room for `room` arrays and objects, itself included. -/
def read (room : Nat) (start : σ) : Reader σ := fun s =>
  match skipSpace s with
  | '\x7b' :: rest => if room = 0 then .error .tooDeep else r.readMap start rest
  | '[' :: rest =>
    if room = 0 then .error .tooDeep else readItems r.expectedLength r.fields 0 start rest
  | _ => .error (wrongTypeAt r.expected s)

end Record

/-! ## Names -/

/-- Looks up a name among the variants of an enumeration. -/
def variant {α : Type} (names : List (String × α)) (name : String) : Except JsonFault α :=
  match Keyed.lookup name names with
  | some value => .ok value
  | none => .error (.unknownVariant name (names.map (·.1)))

/-- Reads a null. -/
def readUnit : Reader Unit := fun s =>
  match skipSpace s with
  | 'n' :: rest => readWord () ['u', 'l', 'l'] rest
  | _ => .error (wrongTypeAt "unit" s)

/-- A variant of an enumeration: its name as a string, or as the only key of an object whose value
is null. -/
def readVariant {α : Type} (names : List (String × α)) : Reader α := fun s =>
  match skipSpace s with
  | [] => .error .valueEnds
  | '"' :: rest => do
    let (name, rest) ← readString rest
    let value ← variant names name
    .ok (value, rest)
  | '\x7b' :: rest => do
    let (name, rest) ← readStringAs "variant identifier" rest
    let value ← variant names name
    let rest ← readColon rest
    let (_, rest) ← readUnit rest
    match skipSpace rest with
    | '\x7d' :: rest => .ok (value, rest)
    | [] => .error .objectEnds
    | _ => .error .valueExpected
  | _ => .error .valueExpected

end BlockPilot.Json
