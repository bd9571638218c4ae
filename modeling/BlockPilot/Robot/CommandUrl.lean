import BlockPilot.Failure
import BlockPilot.Json.Printer
import BlockPilot.Robot.Command
import BlockPilot.Text.Blank
import BlockPilot.Url.Basic

/-!
# The address of a command

A command is sent to the path `cmd` below the robot's address, with the action, the value if there
is one, and a number that keeps the answer from being remembered.
-/

namespace BlockPilot

/-- The text whose address takes the commands. -/
def commandBase (address : String) : List Char :=
  Text.dropEndWhile (· == '/') (Text.trimChars address.toList) ++ ['/', 'c', 'm', 'd']

/-- The pairs by which a query gives a command. -/
def Command.pairs (c : Command) (nonce : Int) : List (List Char × List Char) :=
  [("action".toList, c.action.name.toList)] ++
    (c.value.map fun n => ("value".toList, decimalText n)).toList ++
    [("t".toList, Json.integerText nonce)]

/-- The address that gives a command to the robot at `address`. -/
def commandUrl (address : String) (c : Command) (nonce : Int) : Except Failure Url :=
  match Url.parseHttp (commandBase address) with
  | .ok url => .ok (url.addPairs (c.pairs nonce))
  | .error fault => .error (.invalidAddress address fault.message)

end BlockPilot
