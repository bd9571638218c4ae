import BlockPilot.Binary64
import BlockPilot.Keyed

/-!
# JSON values

A number is an integer of 64 bits or a binary number, and an object keeps its members in the order
of their keys, as a keyed list.
-/

namespace BlockPilot

/-- A JSON number: an integer between `-2 ^ 63` and `2 ^ 64`, or a finite binary number. -/
inductive JsonNumber where
  | integer (value : Int)
  | binary (value : Binary64)
  deriving DecidableEq

inductive Json where
  | null
  | bool (value : Bool)
  | number (value : JsonNumber)
  | string (value : String)
  | array (items : List Json)
  | object (members : List (String × Json))

namespace JsonNumber

/-- Equality of numbers; an integer is never equal to a binary number. -/
def same : JsonNumber → JsonNumber → Bool
  | .integer a, .integer b => a == b
  | .binary a, .binary b => a.same b
  | _, _ => false

/-- The binary number nearest to a number. -/
def toBinary : JsonNumber → Binary64
  | .integer n => .ofInt n
  | .binary x => x

end JsonNumber

namespace Json

/-- A finite binary number; JSON has none of the others, and writes them as null. -/
def ofBinary (x : Binary64) : Json :=
  if x.isFinite then .number (.binary x) else .null

/-! ## Equality -/

mutual

/-- Equality of values: numbers are compared as numbers, and everything else as it is written. -/
def same : Json → Json → Bool
  | .null, .null => true
  | .bool a, .bool b => a == b
  | .number a, .number b => a.same b
  | .string a, .string b => a == b
  | .array a, .array b => sameItems a b
  | .object a, .object b => sameMembers a b
  | _, _ => false

def sameItems : List Json → List Json → Bool
  | [], [] => true
  | a :: as, b :: bs => same a b && sameItems as bs
  | _, _ => false

def sameMembers : List (String × Json) → List (String × Json) → Bool
  | [], [] => true
  | (k, a) :: as, (l, b) :: bs => k == l && same a b && sameMembers as bs
  | _, _ => false

end

end Json

end BlockPilot
