import BlockPilot.Failure

/-!
# Reports of failures

A command that fails is reported with what lies behind the failure, indented and, if there is more
than one cause, numbered.
-/

namespace BlockPilot.CommandLine

structure Report where
  message : String
  causes : List String
  deriving DecidableEq

namespace Report

/-- The report of a failure by itself. -/
def ofFailure (failure : Failure) : Report :=
  ⟨failure.message, failure.cause?.toList⟩

/-- The report of something that failed because of something else. -/
def because (message : String) (r : Report) : Report :=
  ⟨message, r.message :: r.causes⟩

/-- A text behind `start`, with its further lines behind `indent`. -/
def indented (start indent text : String) : String :=
  start ++ String.intercalate ("\n" ++ indent)
    ((List.splitOn '\n' text.toList).map String.ofList)

def causeLines : List String → List String
  | [] => []
  | [cause] => ["", "Caused by:", indented "    " "    " cause]
  | causes => "" :: "Caused by:" :: causes.zipIdx.map fun (cause, i) =>
      let number := toString i
      indented ("".pushn ' ' (5 - number.length) ++ number ++ ": ") "       " cause

/-- The lines of a report. -/
def lines (r : Report) : List String :=
  ("Error: " ++ r.message) :: causeLines r.causes

end Report

end BlockPilot.CommandLine
