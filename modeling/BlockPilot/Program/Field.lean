import BlockPilot.Program.FieldValue
import BlockPilot.Program.NodeFault
import BlockPilot.Robot.Command

/-!
# Fields

The meaning of each field of a block: a direction, a duration, a speed, a count or a message. The
number of a field is first required to be there, then to be a finite number, then to be a whole
one where it counts something, and only then to be in range.
-/

namespace BlockPilot.Field

def required (kind : BlockKind) (field : FieldName) (value : Option FieldValue) :
    Except NodeFault FieldValue :=
  match value with
  | some value => .ok value
  | none => .error (.missingField kind field)

/-- The finite number that a value holds. -/
def finite (kind : BlockKind) (field : FieldName) (value : FieldValue) :
    Except NodeFault Binary64 :=
  match value.toNumber? with
  | some x => if x.isFinite then .ok x else .error (.invalidLiteral kind field value.toText)
  | none => .error (.invalidLiteral kind field value.toText)

/-- The whole number that a value holds, and the same as a binary number. -/
def whole (kind : BlockKind) (field : FieldName) (value : FieldValue) :
    Except NodeFault (Int × Binary64) := do
  let x ← finite kind field value
  match x.toInt? with
  | some n => .ok (n, x)
  | none => .error (.invalidLiteral kind field value.toText)

/-! ## Directions -/

def direction (value : Option FieldValue) : Except NodeFault Direction := do
  let value ← required .move .direction value
  let invalid := NodeFault.invalidLiteral .move .direction value.toText
  match value with
  | .text s => match Direction.ofText? s with
    | some d => .ok d
    | none => .error invalid
  | _ => .error invalid

/-! ## Durations -/

/-- The shortest wait in seconds: the number nearest to a tenth. -/
def minWait : Binary64 := .ofRatio false 1 10

/-- The longest wait in seconds. -/
def maxWait : Binary64 := .ofNat 10

/-- A number of seconds in nanoseconds, to the nearest, ties to the even one. -/
def nanoseconds (seconds : Binary64) : Nat :=
  roundHalfEven (1000000000 * (seconds.units?.getD 0).toNat) Binary64.unitsPerOne

/-- The duration of a wait in nanoseconds. -/
def duration (value : Option FieldValue) : Except NodeFault Nat := do
  let value ← required .wait .seconds value
  let x ← finite .wait .seconds value
  if x.lt minWait || maxWait.lt x then .error (.outOfRange .wait .seconds x minWait maxWait)
  else .ok (nanoseconds x)

/-! ## Speeds and counts -/

def speed (value : Option FieldValue) : Except NodeFault Nat := do
  let value ← required .speed .speed value
  let (n, x) ← whole .speed .speed value
  if n < 0 ∨ (maxSpeed : Int) < n then
    .error (.outOfRange .speed .speed x (.zero false) (.ofNat maxSpeed))
  else .ok n.toNat

/-- A loop never runs more often than this. -/
def maxTimes : Nat := UInt32.size - 1

/-- How often a loop runs; `default` stands in for a missing field. -/
def times (default : Option Nat) (value : Option FieldValue) : Except NodeFault Nat :=
  match value, default with
  | none, some count => .ok count
  | none, none => .error (.missingField .loop .times)
  | some value, _ => do
    let (n, x) ← whole .loop .times value
    if n < 1 then .error (.belowMinimum .loop .times x (.ofNat 1))
    else .ok (min n.toNat maxTimes)

/-! ## Messages -/

def message (value : Option FieldValue) : Except NodeFault String := do
  match ← required .print .message value with
  | .other v => .error (.invalidLiteral .print .message v.compact)
  | value => .ok value.toText

end BlockPilot.Field
