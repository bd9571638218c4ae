/-!
# Events

What a run has to say: a message, and how serious it is.
-/

namespace BlockPilot

inductive Severity where
  | info
  | success
  | warning
  | error
  deriving DecidableEq

def Severity.name : Severity → String
  | .info => "info"
  | .success => "success"
  | .warning => "warning"
  | .error => "error"

/-- Every severity with its name. -/
def Severity.names : List (String × Severity) :=
  [info, success, warning, error].map fun s => (s.name, s)

structure Event where
  severity : Severity
  message : String
  deriving DecidableEq

end BlockPilot
