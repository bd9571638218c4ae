import BlockPilot.Decimal.Reading
import BlockPilot.Text.Blank
import BlockPilot.Text.Lowercase

/-!
# Levels of log lines

The five levels, from `error`, which is shown first, to `trace`, which is shown last. A level is
given by its name in any case of ASCII or by its number, from 1 to 5.
-/

namespace BlockPilot

inductive Level where
  | error
  | warn
  | info
  | debug
  | trace
  deriving DecidableEq

namespace Level

def name : Level → String
  | .error => "error"
  | .warn => "warn"
  | .info => "info"
  | .debug => "debug"
  | .trace => "trace"

/-- The name of a level in log lines. -/
def label (l : Level) : String :=
  Text.uppercaseAscii l.name

/-- The number of a level: 1 for errors, 5 for traces. -/
def number : Level → Nat
  | .error => 1
  | .warn => 2
  | .info => 3
  | .debug => 4
  | .trace => 5

def all : List Level := [error, warn, info, debug, trace]

/-- A natural number in decimal digits, perhaps behind a plus sign. -/
def number? (text : String) : Option Nat :=
  let digits := match text.toList with
    | '+' :: rest => rest
    | cs => cs
  if digits ≠ [] ∧ digits.all isDigit then some (ofDigits digits) else none

/-- The level that a text without white space around it names. -/
def ofName? (text : String) : Option Level :=
  match (number? text).bind fun n => all.find? (·.number == n) with
  | some l => some l
  | none => all.find? (·.name == Text.lowercaseAscii text)

/-- The level that a text names. -/
def ofText? (text : String) : Option Level :=
  ofName? (Text.trim text)

/-- What is said about a text that names no level. -/
def unknownText (text : String) : String :=
  "Invalid log level '" ++ text ++ "'. Must be one of: trace, debug, info, warn, error"

/-- Whether log lines also tell of spans and of the place in the code. -/
def isVerbose (l : Level) : Bool :=
  decide (debug.number ≤ l.number)

end Level

end BlockPilot
