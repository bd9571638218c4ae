import BlockPilot.Json.Printer
import BlockPilot.Logging.Format
import BlockPilot.Logging.Line

/-!
# The text of log lines

A log line as a JSON object or as a line of text, with the moment at which it was written.
-/

namespace BlockPilot.LogLine

/-- The text of a field's value outside JSON, where strings have no quotes. -/
def fieldText : Json → String
  | .string s => s
  | v => v.compact

/-- The JSON object of a line; the message is one of the fields. -/
def jsonText (line : LogLine) (moment : String) : String :=
  Json.recordText [
    ("timestamp", .string moment),
    ("level", .string line.level.label),
    ("fields", .object (Keyed.insert "message" (.string line.message) line.fields)),
    ("target", .string line.target)]

/-- The line as text. -/
def plainText (line : LogLine) (moment : String) : String :=
  let fields := line.fields.map fun (name, v) => " " ++ name ++ "=" ++ fieldText v
  moment ++ " " ++ line.level.label ++ " " ++ line.target ++ ": " ++ line.message ++
    String.join fields

/-- A line in a format. -/
def render (format : LogFormat) (moment : String) (line : LogLine) : String :=
  match format with
  | .json => line.jsonText moment
  | .compact => line.plainText moment
  | .pretty => "  " ++ line.plainText moment ++ "\n"

end BlockPilot.LogLine
