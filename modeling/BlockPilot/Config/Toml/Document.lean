import BlockPilot.Config.Toml.Scan
import BlockPilot.Config.Toml.Table

/-!
# Documents of TOML

A document is a list of lines: comments, headers of tables, and keys with their values. Arrays may
stretch over several lines and end with a comma; inline tables may not.
-/

namespace BlockPilot.Toml

/-- How many arrays and inline tables may be open at the same time, and how many parts a key may
have. -/
def depthLimit : Nat := 79

mutual

/-- A value, with room for `room` more arrays and inline tables. Every step takes a character of
the text, so that `fuel` need not exceed twice its length. -/
def readValue (fuel room : Nat) (s : List Char) : Option (Setting × List Char) :=
  match fuel with
  | 0 => none
  | fuel + 1 =>
    match s with
    | '[' :: rest =>
      if room = 0 then none else do
        let (items, rest) ← readItems fuel (room - 1) rest
        some (.list items, rest)
    | '\x7b' :: rest =>
      if room = 0 then none else
        match skipSpace rest with
        | '\x7d' :: rest => some (.dict [], rest)
        | rest => do
          let (entries, rest) ← readPairs fuel (room - 1) [] rest
          some (.dict (toSettings entries), rest)
    | s => readScalar s

/-- The items of an array, behind its bracket or behind a comma. -/
def readItems (fuel room : Nat) (s : List Char) : Option (List Setting × List Char) :=
  match fuel with
  | 0 => none
  | fuel + 1 =>
    match skipFill s.length s with
    | ']' :: rest => some ([], rest)
    | s => do
      let (item, rest) ← readValue fuel room s
      match skipFill rest.length rest with
      | ',' :: rest =>
        let (items, rest) ← readItems fuel room rest
        some (item :: items, rest)
      | ']' :: rest => some ([item], rest)
      | _ => none

/-- The pairs of an inline table, behind its brace or behind a comma. -/
def readPairs (fuel room : Nat) (entries : Entries) (s : List Char) :
    Option (Entries × List Char) :=
  match fuel with
  | 0 => none
  | fuel + 1 => do
    let (path, v, rest) ← readPair fuel room s
    let entries ← putDotted v path entries
    match skipSpace rest with
    | ',' :: rest => readPairs fuel room entries rest
    | '\x7d' :: rest => some (entries, rest)
    | _ => none

/-- A key and its value. -/
def readPair (fuel room : Nat) (s : List Char) : Option (List String × Setting × List Char) :=
  match fuel with
  | 0 => none
  | fuel + 1 => do
    let (path, rest) ← readKey (s.length + 1) s
    if depthLimit < path.length then none
    else
      let rest ← readMark '=' rest
      let (v, rest) ← readValue fuel room (skipSpace rest)
      some (path, v, rest)

end

/-! ## Lines -/

/-- The tables so far, and the header under which the next keys stand. -/
structure Draft where
  entries : Entries
  path : List String

/-- The draft after a header with its brackets. -/
def readHeader (d : Draft) (s : List Char) : Option (Draft × List Char) :=
  let close (path : List String) (change : String → Entries → Option Entries) (rest : List Char) :
      Option (Draft × List Char) := do
    let name ← path.getLast?
    let entries ← atTable (change name) path.dropLast d.entries
    some (⟨entries, path⟩, ← readLineEnd rest)
  match s with
  | '[' :: '[' :: rest => do
    let (path, rest) ← readKey (rest.length + 1) rest
    close path appendTable (← readMark ']' (← readMark ']' rest))
  | '[' :: rest => do
    let (path, rest) ← readKey (rest.length + 1) rest
    close path beginTable (← readMark ']' rest)
  | _ => none

/-- The draft after a key with its value. -/
def readLine (d : Draft) (s : List Char) : Option (Draft × List Char) := do
  let (path, v, rest) ← readPair (2 * s.length + 2) depthLimit s
  let entries ← atTable (putDotted v path) d.path d.entries
  some (⟨entries, d.path⟩, ← readLineEnd rest)

/-- The lines of a document, each of which takes a character at least. -/
def readAll (fuel : Nat) (d : Draft) (s : List Char) : Option Draft :=
  match fuel, skipSpace s with
  | _, [] => some d
  | 0, _ => none
  | fuel + 1, c :: rest =>
    if c = '#' ∨ c = '\n' ∨ c = '\r' then do
      readAll fuel d (← readLineEnd (c :: rest))
    else if c = '[' then do
      let (d, rest) ← readHeader d (c :: rest)
      readAll fuel d rest
    else do
      let (d, rest) ← readLine d (c :: rest)
      readAll fuel d rest

/-- The settings that a text gives, unless it is no TOML. -/
def parse? (text : String) : Option (List (String × Setting)) :=
  let s := match text.toList with
    | '\uFEFF' :: rest => rest
    | s => s
  (readAll (s.length + 1) ⟨[], []⟩ s).map fun d => toSettings d.entries

end BlockPilot.Toml
