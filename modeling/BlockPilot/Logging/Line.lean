import BlockPilot.Event.Basic
import BlockPilot.Json.Value
import BlockPilot.Logging.Level

/-!
# Log lines

A log line has a level, the part of the program that it comes from, a message, and fields in the
order of their names.
-/

namespace BlockPilot

structure LogLine where
  level : Level
  /-- The part of the program that the line comes from. -/
  target : String
  message : String
  fields : List (String × Json)

namespace LogLine

/-- Where the lines come from. -/
def programTarget : String := "botblocks"

def eventTarget : String := "botblocks::events"

def runTarget : String := "botblocks::experiment::run_engine"

def interpreterTarget : String := "botblocks::experiment::interpreter"

def linkTarget : String := "botblocks::hardware::http"

def slotTarget : String := "botblocks::program::store"

/-- The line that an event leaves. -/
def ofEvent (e : Event) : LogLine :=
  match e.severity with
  | .info | .success =>
    ⟨.info, eventTarget, e.message, [("severity", .string e.severity.name)]⟩
  | .warning => ⟨.warn, eventTarget, e.message, []⟩
  | .error => ⟨.error, eventTarget, e.message, []⟩

/-- The line for a program that was kept in a slot. -/
def saved (slot path : String) : LogLine :=
  ⟨.debug, slotTarget, "Program saved", [("path", .string path), ("slot", .string slot)]⟩

/-- The line for events that were lost. -/
def missed (count : Nat) : LogLine :=
  ⟨.warn, programTarget, "Event output fell behind", [("skipped", .number (.integer count))]⟩

end LogLine

end BlockPilot
