import BlockPilot.Config.Basic
import BlockPilot.Config.Fault

/-!
# Failures

Why a request outside a run cannot be answered: a text that is no program, a slot or an example
that does not exist, an address that no command can be sent to, a file that cannot be used, or a
configuration that is wrong.
-/

namespace BlockPilot

inductive Failure where
  /-- A setting that cannot be taken over. -/
  | setting (fault : ConfigFault)
  /-- A configuration that does not keep to its rules. -/
  | configuration (problem : Config.Problem)
  | io (fault : FileFault)
  | json (fault : JsonFault)
  | invalidAddress (address reason : String)
  | invalidSlot (name : String)
  | slotNotFound (name : String)
  | unknownExample (name : String)
  deriving DecidableEq

def Failure.message : Failure → String
  | .setting fault => "Configuration error: " ++ fault.message
  | .configuration problem => "Configuration validation error: " ++ problem.message
  | .io fault => "I/O error: " ++ fault.message
  | .json fault => "Program serialization error: " ++ fault.message
  | .invalidAddress address reason =>
    "Invalid device address '" ++ address ++ "': " ++ reason
  | .invalidSlot name =>
    "Invalid program slot name '" ++ name ++ "' (use letters, digits, '-' or '_')"
  | .slotNotFound name => "No saved program in slot '" ++ name ++ "'"
  | .unknownExample name => "Unknown example program '" ++ name ++ "'"

/-- What lies behind a failure, where the failure only passes it on. -/
def Failure.cause? : Failure → Option String
  | .setting fault => some fault.message
  | .io fault => some fault.message
  | .json fault => some fault.message
  | _ => none

end BlockPilot
