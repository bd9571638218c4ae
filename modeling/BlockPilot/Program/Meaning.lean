import BlockPilot.Program.Chain
import BlockPilot.Program.Field

/-!
# What a block does

A block that can be run announces itself with a message and then does one thing at most: it sends a
command or waits. A loop announces how often it runs.
-/

namespace BlockPilot

/-- What a block does after its message. -/
inductive Deed where
  | nothing
  | send (command : Command)
  | wait (nanoseconds : Nat)
  deriving DecidableEq

/-- Whole seconds and the rest of a second, added as binary numbers. -/
def secondsOf (nanoseconds : Nat) : Binary64 :=
  (Binary64.ofNat (nanoseconds / 1000000000)).add
    (.ofRatio false (nanoseconds % 1000000000) (1000000000))

/-- The message and the deed of a block. -/
def Block.meaning : Block → Except NodeFault (String × Deed)
  | .move d => do
    let d ← Field.direction d
    return ("Move " ++ d.name, .send ⟨d.toAction, none⟩)
  | .stop => .ok ("Stop", .send ⟨.stop, none⟩)
  | .wait s => do
    let n ← Field.duration s
    return ("Wait " ++ (secondsOf n).toPlain ++ "s", .wait n)
  | .setSpeed s => do
    let n ← Field.speed s
    return ("Speed " ++ toString n, .send ⟨.speed, some n⟩)
  | .print m => do
    let m ← Field.message m
    return (m, .nothing)
  | .unsupported type _ => .error (.unsupported type)

/-- How often a loop runs that does not say it. -/
def LoopKind.defaultTimes : LoopKind → Option Nat
  | .fixed => none
  | .counted => some 1

/-- How often a loop runs. -/
def LoopKind.count (kind : LoopKind) (times : Option FieldValue) : Except NodeFault Nat :=
  Field.times kind.defaultTimes times

/-- The message of a loop that runs `n` times. -/
def loopMessage (n : Nat) : String :=
  "Repeat " ++ toString n ++ "x"

/-- Whether a block still runs when its run has to stop. -/
def Block.runsStopped : Block → Bool
  | .stop => true
  | _ => false

end BlockPilot
