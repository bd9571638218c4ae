import BlockPilot.Json.Printer
import BlockPilot.Json.Record
import BlockPilot.Program.Basic

/-!
# The JSON form of programs

A block is an object whose member `type` says what it is, whose member `next` holds the block
behind it, and whose other members are its fields. A loop has its body in `body`. An absent field
is not written, and one that is null is absent. A program is a record with one field, the list
`sequences` of first blocks.

A chain is read from a whole value (`Chain.ofJson`), so that a text's own faults come before the
faults of the blocks in it; of these, the ones behind a block come before the ones inside it.
-/

namespace BlockPilot

namespace Chain

/-! ## Reading -/

/-- The type that a block's members name; a type that is no text counts as empty. -/
def typeName (members : List (String × Json)) : String :=
  match Keyed.lookup "type" members with
  | some (.string name) => name
  | _ => ""

/-- A field among the members of a block. -/
def field (name : String) (members : List (String × Json)) : Option FieldValue :=
  (Keyed.lookup name members).bind FieldValue.ofField

/-- The members of a block that the program does not read itself. -/
def others (members : List (String × Json)) : List (String × Json) :=
  Keyed.erase "type" (Keyed.erase "next" members)

/-- The block with these members, where `body` reads its body. -/
def assemble (members : List (String × Json)) (next : Chain)
    (body : Except JsonFault Chain) : Except JsonFault Chain :=
  let simple (b : Block) : Except JsonFault Chain := .ok (.block b next)
  let loop (kind : LoopKind) : Except JsonFault Chain := do
    .ok (.loop kind (field "times" members) (← body) next)
  match typeName members with
  | "move" => simple (.move (field "direction" members))
  | "stop" => simple .stop
  | "wait" => simple (.wait (field "seconds" members))
  | "set_speed" => simple (.setSpeed (field "speed" members))
  | "print" => simple (.print (field "message" members))
  | "repeat" => loop .fixed
  | "repeat_counted" => loop .counted
  | type => simple (.unsupported type (others members))

mutual

/-- The chain that begins with the block that a value describes; a null stands for no block. -/
def ofLink : Json → Except JsonFault Chain
  | .null => .ok .nil
  | .object members => do
    let next ← ofMember "next" members
    assemble members next (ofMember "body" members)
  | v => .error (.wrongType v.found "a map")

/-- The chain that a member describes; an absent member is the empty chain. -/
def ofMember (name : String) : List (String × Json) → Except JsonFault Chain
  | [] => .ok .nil
  | (key, value) :: rest => if key = name then ofLink value else ofMember name rest

end

/-- The chain that begins with the block that a value describes. -/
def ofJson : Json → Except JsonFault Chain
  | .null => .error (.wrongType .null "a map")
  | v => ofLink v

/-- The chain that a text describes. -/
def parse (text : String) : Except JsonFault Chain :=
  Json.readText (fun s => do
    let (members, rest) ← Json.readObject Json.depthLimit s
    let c ← ofJson (.object members)
    .ok (c, rest)) text

end Chain

/-! ## Writing -/

/-- The members with one more if there is a value for it. -/
def putField (name : String) (value : Option FieldValue) (members : List (String × Json)) :
    List (String × Json) :=
  match value with
  | some v => Keyed.insert name v.toJson members
  | none => members

/-- The members of an object with the given type and one field. -/
def blockMembers (type name : String) (value : Option FieldValue) : List (String × Json) :=
  Keyed.insert "type" (.string type) (putField name value [])

def Block.toMembers : Block → List (String × Json)
  | .move d => blockMembers "move" "direction" d
  | .stop => [("type", .string "stop")]
  | .wait s => blockMembers "wait" "seconds" s
  | .setSpeed s => blockMembers "set_speed" "speed" s
  | .print m => blockMembers "print" "message" m
  | .unsupported type members => Keyed.insert "type" (.string type) members

def LoopKind.type : LoopKind → String
  | .fixed => "repeat"
  | .counted => "repeat_counted"

/-- The members with one more unless its value is null, which stands for the empty chain. -/
def putLink (name : String) (value : Json) (members : List (String × Json)) :
    List (String × Json) :=
  match value with
  | .null => members
  | v => Keyed.insert name v members

/-- The value that describes a chain; the empty chain is null. -/
def Chain.toJson : Chain → Json
  | .nil => .null
  | .block b next => .object (putLink "next" next.toJson b.toMembers)
  | .loop kind times body next =>
    .object <| putLink "next" next.toJson <| putLink "body" body.toJson <|
      blockMembers kind.type "times" times

/-! ## Whole programs -/

namespace Program

/-- Reads the list of first blocks, with room for `room` arrays and objects, itself included. -/
def readSequences (room : Nat) : Json.Reader (List Chain) := fun s =>
  match Json.skipSpace s with
  | '[' :: rest => match room with
    | 0 => .error .tooDeep
    | room + 1 => do
      let step := fun (chains : List Chain) s => do
        let (members, rest) ← Json.readObject room s
        let c ← Chain.ofJson (.object members)
        .ok (c :: chains, rest)
      let (chains, rest) ← Json.walkItems step (rest.length + 1) true [] rest
      .ok (chains.reverse, rest)
  | _ => .error (Json.wrongTypeAt "a sequence" s)

/-- A program as a record. -/
def record : Json.Record (List Chain) where
  name := "Program"
  fields := [⟨"sequences", false, fun _ => readSequences (Json.depthLimit - 1)⟩]

/-- The program that a text describes. -/
def parse (text : String) : Except JsonFault Program :=
  (Json.readText (record.read Json.depthLimit []) text).map ofChains

def toJson (p : Program) : Json :=
  .object [("sequences", .array (p.sequences.map Chain.toJson))]

/-- The text of a program without spaces. -/
def compact (p : Program) : String :=
  p.toJson.compact

/-- The text of a program with one item a line. -/
def pretty (p : Program) : String :=
  p.toJson.pretty

end Program

end BlockPilot
