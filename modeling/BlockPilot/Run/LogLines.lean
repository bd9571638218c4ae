import BlockPilot.Logging.Line
import BlockPilot.Run.Controller

/-!
# Log lines of runs

What the effects of a call leave in the log.
-/

namespace BlockPilot

/-- The line at the beginning or at the end of a run. -/
def LogLine.ofSpan (message : String) : LogLine :=
  ⟨.info, runTarget, message, []⟩

/-- The lines that an effect leaves; `spans` says whether the beginning and the end of a run have
lines of their own. -/
def Effect.logLines (spans : Bool) : Effect → List LogLine
  | .began => if spans then [.ofSpan "new"] else []
  | .planned sequences nodes =>
    [⟨.info, LogLine.runTarget, "Run started",
      [("nodes", .number (.integer nodes)), ("sequences", .number (.integer sequences))]⟩]
  | .emitted e => [.ofEvent e]
  | .failed kind fault =>
    [⟨.warn, LogLine.interpreterTarget, "Node failed",
      [("error", .string fault.message), ("kind", .string kind.name)]⟩,
      .ofEvent ⟨.error, fault.message⟩]
  | .refused command (some reason) =>
    [⟨.warn, LogLine.linkTarget, "Could not build command request",
      [("action", .string command.action.name), ("error", .string reason.message)]⟩]
  | .finished _ outcome errors =>
    ⟨.info, LogLine.runTarget, "Run finished",
      [("node_errors", .number (.integer errors)), ("outcome", .string outcome.name)]⟩ ::
      if spans then [.ofSpan "close"] else []
  | .refused _ none | .sent _ | .raised _ => []

end BlockPilot
