import BlockPilot.Event.Basic
import BlockPilot.Event.Moment
import BlockPilot.Json.Printer
import BlockPilot.Json.Record

/-!
# Stamped events

An event with the moment at which it happened, as a line of text and as JSON.
-/

namespace BlockPilot

structure StampedEvent where
  moment : Moment
  event : Event
  deriving DecidableEq

namespace StampedEvent

/-- The line that shows an event: the time of day in brackets and the message. -/
def line (clock message : String) : String :=
  "[" ++ clock ++ "] " ++ message

def text (e : StampedEvent) : String :=
  line (String.ofList e.moment.clockText) e.event.message

/-! ## JSON form -/

/-- The members of an event's record, in their order. -/
def jsonText (e : StampedEvent) : String :=
  Json.recordText [
    ("timestamp", .string (String.ofList e.moment.text)),
    ("severity", .string e.event.severity.name),
    ("message", .string e.event.message)]

/-- The moment that a string gives. -/
def readMoment : Json.Reader Moment := fun s => do
  let (text, rest) ← Json.readStringAs "an RFC 3339 formatted date and time string" s
  match Moment.parse text with
  | .ok m => .ok (m, rest)
  | .error fault => .error (.other fault.message)

/-- The fields of an event that have been read. -/
structure Draft where
  moment : Option Moment
  severity : Option Severity
  message : Option String

def record : Json.Record Draft where
  name := "Event"
  fields := [
    ⟨"timestamp", true, fun d s => do
      let (m, rest) ← readMoment s
      .ok ({ d with moment := some m }, rest)⟩,
    ⟨"severity", true, fun d s => do
      let (v, rest) ← Json.readVariant Severity.names s
      .ok ({ d with severity := some v }, rest)⟩,
    ⟨"message", true, fun d s => do
      let (v, rest) ← Json.readStringAs "a string" s
      .ok ({ d with message := some v }, rest)⟩]

/-- The event that a text gives. -/
def parse (text : String) : Except JsonFault StampedEvent := do
  match ← Json.readText (record.read Json.depthLimit ⟨none, none, none⟩) text with
  | ⟨some moment, some severity, some message⟩ => .ok ⟨moment, severity, message⟩
  | _ => .error (.missingField "timestamp")

end StampedEvent

end BlockPilot
