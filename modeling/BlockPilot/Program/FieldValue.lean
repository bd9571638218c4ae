import BlockPilot.Decimal.Reading
import BlockPilot.Json.Printer
import BlockPilot.Text.Blank

/-!
# Field values

The value of a block's field, as the editor stored it: a number, a text, or any other JSON value.
What a field means is decided only when the block is run.
-/

namespace BlockPilot

inductive FieldValue where
  | number (value : Binary64)
  | text (value : String)
  | other (value : Json)

namespace FieldValue

/-- The number that the value is, or that its text reads as. -/
def toNumber? : FieldValue → Option Binary64
  | .number x => some x
  | .text s => Binary64.ofText? (Text.trim s)
  | .other _ => none

/-- Below this magnitude a whole number is shown without the sign of a zero. -/
def wholeLimit : Nat := 1000000000000000

/-- The text of a number. -/
def numberText (x : Binary64) : String :=
  match x.toInt? with
  | some n => if n.natAbs < wholeLimit then String.ofList (Json.integerText n) else x.toPlain
  | none => x.toPlain

/-- The value as a text. -/
def toText : FieldValue → String
  | .text s => s
  | .number x => numberText x
  | .other v => v.compact

/-! ## JSON form -/

def ofJson : Json → FieldValue
  | .number n => .number n.toBinary
  | .string s => .text s
  | v => .other v

/-- The field of a block whose value is null is absent. -/
def ofField : Json → Option FieldValue
  | .null => none
  | v => some (ofJson v)

def toJson : FieldValue → Json
  | .number x => .ofBinary x
  | .text s => .string s
  | .other v => v

/-! ## Equality -/

/-- Equality of values: numbers are compared as numbers, and a number never equals a text. -/
def same : FieldValue → FieldValue → Bool
  | .number x, .number y => x.same y
  | .text s, .text t => s == t
  | .other v, .other w => v.same w
  | _, _ => false

end FieldValue

end BlockPilot
