import BlockPilot.Duration
import BlockPilot.Robot.CommandUrl

/-!
# Channels

A channel takes commands one at a time and can only say whether a command was sent, never whether
the robot obeyed. After a command that was sent the channel settles for a while. A recorder keeps
the commands and refuses them when it is told to; a link sends them to an address and refuses them
when the address is none.
-/

namespace BlockPilot

/-- A command, and when it was sent: how long the clock had been going. -/
structure Dispatch where
  command : Command
  moment : Duration
  deriving DecidableEq

/-- When a command was sent, in whole milliseconds. -/
def Dispatch.time (d : Dispatch) : Nat := d.moment.millis

structure Recorder where
  /-- The time to settle behind a command. -/
  settle : Duration
  address : String
  reachable : Bool
  connected : Bool
  /-- How often the connection was reported. -/
  reports : Nat
  /-- The commands that were sent, newest first. -/
  records : List Dispatch

structure Link where
  /-- The time to settle behind a command. -/
  settle : Duration
  address : String
  connected : Bool

inductive Channel where
  | recorder (r : Recorder)
  | link (l : Link)

/-- A recorder that has recorded nothing. -/
def Recorder.new (settle : Duration) : Recorder :=
  ⟨settle, "http://mock.invalid", true, false, 0, []⟩

def Link.new (settle : Duration) (address : String) : Link :=
  ⟨settle, address, false⟩

namespace Channel

def settle : Channel → Duration
  | .recorder r => r.settle
  | .link l => l.settle

def address : Channel → String
  | .recorder r => r.address
  | .link l => l.address

/-- Whether the last command was sent. -/
def connected : Channel → Bool
  | .recorder r => r.connected
  | .link l => l.connected

/-- The commands that a recorder has recorded, newest first. -/
def records : Channel → List Dispatch
  | .recorder r => r.records
  | .link _ => []

/-- Why the channel refuses a command, if it does and knows it. -/
def refusal? (c : Channel) (command : Command) : Option Failure :=
  match c with
  | .recorder _ => none
  | .link l => match commandUrl l.address command 0 with
    | .ok _ => none
    | .error failure => some failure

/-- Whether the channel sends a command. -/
def accepts (c : Channel) (command : Command) : Bool :=
  match c with
  | .recorder r => r.reachable
  | .link _ => (c.refusal? command).isNone

/-! ## Changes -/

/-- The channel after it has sent a command. -/
def record (c : Channel) (d : Dispatch) : Channel :=
  match c with
  | .recorder r =>
    .recorder { r with records := d :: r.records, connected := true, reports := r.reports + 1 }
  | .link l => .link { l with connected := true }

/-- The channel after it has refused a command. -/
def refuse : Channel → Channel
  | .recorder r => .recorder { r with connected := false, reports := r.reports + 1 }
  | .link l => .link { l with connected := false }

/-- Sends the next commands to another address; a link leaves out the white space around it. -/
def setAddress (c : Channel) (address : String) : Channel :=
  match c with
  | .recorder r => .recorder { r with address }
  | .link l => .link { l with address := Text.trim address }

/-- Makes a recorder take commands or refuse them. -/
def setReachable (c : Channel) (reachable : Bool) : Channel :=
  match c with
  | .recorder r => .recorder { r with reachable }
  | .link l => .link l

/-- Forgets the recorded commands. -/
def clearRecords : Channel → Channel
  | .recorder r => .recorder { r with records := [] }
  | .link l => .link l

end Channel

end BlockPilot
