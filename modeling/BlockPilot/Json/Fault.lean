import BlockPilot.Decimal.Layout
import BlockPilot.Text.Quoted

/-!
# Faults of JSON texts

What can be wrong with a text that should hold a certain kind of value: the text is no JSON, it
ends too early, or it holds a value of another kind. `JsonFault.message` words each fault.
-/

namespace BlockPilot

/-- What a text held where another kind of value was expected. -/
inductive Found where
  | null
  | bool (value : Bool)
  | integer (value : Int)
  | binary (value : Binary64)
  | string (value : String)
  | sequence
  | map
  deriving DecidableEq

inductive JsonFault where
  | valueEnds
  | listEnds
  | objectEnds
  | stringEnds
  | valueExpected
  | wordExpected
  | colonExpected
  | listGoesOn
  | objectGoesOn
  | trailingComma
  | trailingCharacters
  | keyExpected
  | invalidNumber
  | numberOutOfRange
  | invalidEscape
  | hexEscapeEnds
  | loneSurrogate
  | controlCharacter
  | tooDeep
  | wrongType (found : Found) (expected : String)
  | wrongValue (found : Found) (expected : String)
  | unknownVariant (name : String) (names : List String)
  | missingField (name : String)
  | duplicateField (name : String)
  | wrongLength (length : Nat) (expected : String)
  | other (message : String)
  deriving DecidableEq

/-- The three kinds of faults. -/
inductive FaultKind where
  | syntactic
  | ending
  | data
  deriving DecidableEq

def FaultKind.name : FaultKind → String
  | .syntactic => "syntax"
  | .ending => "eof"
  | .data => "data"

/-- The text between backticks. -/
def ticked (s : String) : String :=
  "`" ++ s ++ "`"

/-- The names as the alternatives of a message. -/
def alternatives : List String → String
  | [] => "none"
  | [a] => ticked a
  | [a, b] => ticked a ++ " or " ++ ticked b
  | names => "one of " ++ String.intercalate ", " (names.map ticked)

def Found.text : Found → String
  | .null => "null"
  | .bool b => "boolean " ++ ticked (if b then "true" else "false")
  | .integer n => "integer " ++ ticked (toString n)
  | .binary x => "floating point " ++ ticked x.toJsonText
  | .string s => "string " ++ Text.quoted s
  | .sequence => "sequence"
  | .map => "map"

namespace JsonFault

def kind : JsonFault → FaultKind
  | .valueEnds | .listEnds | .objectEnds | .stringEnds => .ending
  | .wrongType .. | .wrongValue .. | .unknownVariant .. | .missingField _ | .duplicateField _
  | .wrongLength .. | .other _ => .data
  | _ => .syntactic

def message : JsonFault → String
  | .valueEnds => "EOF while parsing a value"
  | .listEnds => "EOF while parsing a list"
  | .objectEnds => "EOF while parsing an object"
  | .stringEnds => "EOF while parsing a string"
  | .valueExpected => "expected value"
  | .wordExpected => "expected ident"
  | .colonExpected => "expected `:`"
  | .listGoesOn => "expected `,` or `]`"
  | .objectGoesOn => "expected `,` or `\x7d`"
  | .trailingComma => "trailing comma"
  | .trailingCharacters => "trailing characters"
  | .keyExpected => "key must be a string"
  | .invalidNumber => "invalid number"
  | .numberOutOfRange => "number out of range"
  | .invalidEscape => "invalid escape"
  | .hexEscapeEnds => "unexpected end of hex escape"
  | .loneSurrogate => "lone leading surrogate in hex escape"
  | .controlCharacter => "control character (\\u0000-\\u001F) found while parsing a string"
  | .tooDeep => "recursion limit exceeded"
  | .wrongType found expected => "invalid type: " ++ found.text ++ ", expected " ++ expected
  | .wrongValue found expected => "invalid value: " ++ found.text ++ ", expected " ++ expected
  | .unknownVariant name names =>
    "unknown variant " ++ ticked name ++ ", expected " ++ alternatives names
  | .missingField name => "missing field " ++ ticked name
  | .duplicateField name => "duplicate field " ++ ticked name
  | .wrongLength length expected =>
    "invalid length " ++ toString length ++ ", expected " ++ expected
  | .other message => message

end JsonFault

end BlockPilot
