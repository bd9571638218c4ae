import BlockPilot.Text.Blank
import BlockPilot.Text.Lowercase

/-!
# Formats of log lines

Log lines are pretty, compact or JSON objects. A format is named in any case and with any white
space around it.
-/

namespace BlockPilot

inductive LogFormat where
  | pretty
  | compact
  | json
  deriving DecidableEq

namespace LogFormat

def name : LogFormat → String
  | .pretty => "pretty"
  | .compact => "compact"
  | .json => "json"

/-- Every format with its name. -/
def names : List (String × LogFormat) :=
  [pretty, compact, json].map fun f => (f.name, f)

/-- The format that a text names. -/
def ofText? (text : String) : Option LogFormat :=
  (names.find? (·.1 == Text.lowercase (Text.trim text))).map (·.2)

/-- What is said about a text that names no format. -/
def unknownText (text : String) : String :=
  "Invalid log format '" ++ Text.lowercase (Text.trim text) ++
    "'. Must be one of: pretty, compact, json"

end LogFormat

end BlockPilot
