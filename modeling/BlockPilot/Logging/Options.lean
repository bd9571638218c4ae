import BlockPilot.Config.Basic

/-!
# Options of log lines

How log lines are written, as a configuration says it.
-/

namespace BlockPilot

structure LogOptions where
  level : Level
  format : LogFormat
  /-- Whether the beginning and the end of a run have lines of their own. -/
  tellsSpans : Bool
  /-- Whether a line tells the place in the code. -/
  tellsPlace : Bool
  deriving DecidableEq

/-- The options that a configuration gives, if its level is one. -/
def LogOptions.ofConfig? (c : Config) : Option LogOptions :=
  (Level.ofText? c.application.logLevel).map fun level =>
    ⟨level, c.application.logFormat, level.isVerbose, level.isVerbose⟩

end BlockPilot
