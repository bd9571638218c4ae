import BlockPilot.Failure
import BlockPilot.Program.Basic
import BlockPilot.Text.Blank
import BlockPilot.Text.Lowercase

/-!
# Example programs

Four programs that come with the library, found by their names in any case of ASCII and with any
white space around them.
-/

namespace BlockPilot.Examples

open Chain

/-- A number of tenths of a second as a wait. -/
def waitTenths (tenths : Nat) : Chain :=
  wait (.ofRatio false tenths 10)

/-- Drives forward and turns right, four times. -/
def square : Program := .ofChains [link [
  repeatFixed 4 [move .forward, waitTenths 10, move .right, waitTenths 5]]]

/-- Turns right and left between short drives. -/
def zigzag : Program := .ofChains [link [
  repeatFixed 3 [
    move .forward, waitTenths 8, move .right, waitTenths 5,
    move .forward, waitTenths 8, move .left, waitTenths 5]]]

/-- Wiggles fast to both sides and stops. -/
def dance : Program := .ofChains [link [
  setSpeed 900,
  repeatFixed 3 [move .left, waitTenths 3, move .right, waitTenths 3],
  stop]]

/-- Announces itself and drives forward, five times, and stops. -/
def counter : Program := .ofChains [link [
  repeatFixed 5 [print "Moving...", move .forward, waitTenths 5],
  stop]]

/-- Every example with its name. -/
def all : List (String × Program) :=
  [("square", square), ("zigzag", zigzag), ("dance", dance), ("counter", counter)]

def names : List String :=
  all.map (·.1)

/-- The example with a name. -/
def get (name : String) : Except Failure Program :=
  match all.find? (·.1 == Text.lowercaseAscii (Text.trim name)) with
  | some (_, p) => .ok p
  | none => .error (.unknownExample name)

end BlockPilot.Examples
