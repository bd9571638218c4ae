import BlockPilot.Logging.Format
import BlockPilot.Logging.Line
import BlockPilot.Storage.Files

/-!
# The host of the command line

What the command line needs of the system that it runs on, in any monad.
-/

namespace BlockPilot.CommandLine

structure Host (m : Type → Type) where
  files : Files m
  /-- Prints a line of output. -/
  print : String → m Unit
  /-- Prints a line about a failure. -/
  complain : String → m Unit
  log : LogFormat → LogLine → m Unit
  /-- Waits for some nanoseconds, for a while even if there are none. -/
  sleep : Nat → m Unit
  /-- The time of day, in hours, minutes and seconds. -/
  clock : m String

end BlockPilot.CommandLine
