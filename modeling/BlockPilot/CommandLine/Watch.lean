import BlockPilot.CommandLine.Host
import BlockPilot.Config.Basic
import BlockPilot.Event.Stamped
import BlockPilot.Logging.Filter
import BlockPilot.Logging.Options
import BlockPilot.Run.Call
import BlockPilot.Run.LogLines

/-!
# Watching a call

A call on the command line is shown while it goes on: at every pause the events since the last one
are printed. If more events have come than wait for their reader, the oldest are lost; at the end
of a call nothing is printed then.
-/

namespace BlockPilot.CommandLine

/-- How log lines are written, and which ones. -/
structure Logging where
  options : LogOptions
  filter : LogFilter

/-- The variable that holds a filter for log lines. -/
def filterVariable : String := "RUST_LOG"

/-- The filter of the environment, or else the one of the configured level. -/
def Logging.ofOptions (options : LogOptions) (env : List (String × String)) : Logging :=
  let filter := (Keyed.lookup filterVariable env).bind LogFilter.parse?
  ⟨options, filter.getD (.ofLevel options.level)⟩

variable {m : Type → Type} [Monad m] (host : Host m)

def logLine (logging : Logging) (line : LogLine) : m Unit :=
  if logging.filter.allows line.target line.level then host.log logging.options.format line
  else pure ()

/-! ## Going on with a call -/

/-- The mark of an event in the output. -/
def mark : Severity → String
  | .info => "  "
  | .success => "✅"
  | .warning => "⚠️ "
  | .error => "❌"

def printEvent (e : Event) : m Unit := do
  host.print (mark e.severity ++ " " ++ StampedEvent.line (← host.clock) e.message)

/-- Goes on with a call to its end; `feed` is the number of the subscriber that prints. -/
def drive (logging : Logging) (feed : Nat) (c : Controller) (call : Call) : m Call := do
  let step := call.untraced.advance (fun _ => true) c
  let lines := step.2.trace.reverse.flatMap (·.logLines logging.options.tellsSpans)
  lines.forM (logLine host logging)
  let (seen, log) := (step.1.log.drain? feed).getD (.empty, step.1.log)
  match _h : step.2.next? with
  | some (nanoseconds, rest) => do
    if seen.missed ≠ 0 then logLine host logging (.missed seen.missed)
    seen.waiting.forM (printEvent host)
    host.sleep nanoseconds
    drive logging feed { step.1 with log } rest
  | none => do
    if seen.missed = 0 then seen.waiting.forM (printEvent host)
    return step.2
termination_by call.weight
decreasing_by
  exact Nat.lt_of_lt_of_le (Call.weight_next?_lt _h) (Call.weight_advance_le _ c call.untraced)

/-- Performs a call and shows what it does. -/
def supervise (logging : Logging) (c : Controller) (call : Call) : m Call :=
  let (log, feed) := c.log.subscribe
  drive host logging feed { c with log } call

end BlockPilot.CommandLine
