import BlockPilot.Text.Blank
import BlockPilot.Text.Lowercase

/-!
# Commands

What a robot can be told: to drive in a direction, to stop, or to take another speed. A command is
an action, with a value when the action is `speed`.
-/

namespace BlockPilot

inductive Direction where
  | forward
  | backward
  | left
  | right
  deriving DecidableEq

inductive Action where
  | forward
  | backward
  | left
  | right
  | stop
  | speed
  deriving DecidableEq

/-- An action, and the value that goes with it. -/
structure Command where
  action : Action
  value : Option Nat
  deriving DecidableEq

/-- The greatest speed that a robot knows. -/
def maxSpeed : Nat := 1023

namespace Direction

def name : Direction → String
  | .forward => "forward"
  | .backward => "backward"
  | .left => "left"
  | .right => "right"

/-- Every direction with its name. -/
def names : List (String × Direction) :=
  [forward, backward, left, right].map fun d => (d.name, d)

/-- The direction that a text names, in any case and with any white space around it. -/
def ofText? (text : String) : Option Direction :=
  (names.find? (·.1 == Text.lowercase (Text.trim text))).map (·.2)

/-- What is said about a text that names no direction. -/
def unknownText (text : String) : String :=
  "unknown direction '" ++ Text.lowercase (Text.trim text) ++ "'"

/-- The action of driving in a direction. -/
def toAction : Direction → Action
  | .forward => .forward
  | .backward => .backward
  | .left => .left
  | .right => .right

end Direction

namespace Action

def name : Action → String
  | .forward => "forward"
  | .backward => "backward"
  | .left => "left"
  | .right => "right"
  | .stop => "stop"
  | .speed => "speed"

/-- Every action with its name. -/
def names : List (String × Action) :=
  [forward, backward, left, right, stop, speed].map fun a => (a.name, a)

end Action

end BlockPilot
