import BlockPilot.Config.Basic
import BlockPilot.Event.Log
import BlockPilot.Program.Meaning
import BlockPilot.Program.Basic
import BlockPilot.Robot.Channel
import BlockPilot.Run.Token

/-!
# The controller

The state that all calls share: the token, the channel, the log and the clock. A call changes it by
*effects* only, so that the effects of a call tell all that it did.
-/

namespace BlockPilot

inductive Outcome where
  | completed
  | stopped
  | alreadyRunning
  deriving DecidableEq

def Outcome.name : Outcome → String
  | .completed => "Completed"
  | .stopped => "Stopped"
  | .alreadyRunning => "AlreadyRunning"

/-- What a call does to the controller, one change at a time. -/
inductive Effect where
  /-- A run begins with a fresh log. -/
  | began
  /-- What a run that has begun will do. -/
  | planned (sequences nodes : Nat)
  | emitted (event : Event)
  /-- A block could not be run. -/
  | failed (kind : BlockKind) (fault : NodeFault)
  | sent (dispatch : Dispatch)
  | refused (command : Command) (reason : Option Failure)
  | raised (signal : StopSignal)
  /-- A run ends and gives its ticket back. -/
  | finished (ticket : Ticket) (outcome : Outcome) (errors : Nat)

structure Controller where
  token : Token
  channel : Channel
  log : EventLog
  /-- The pause after each block. -/
  pacing : Duration
  /-- How long the clock has been going. -/
  clock : Duration

namespace Controller

def new (channel : Channel) (log : EventLog) (pacing : Duration) : Controller :=
  ⟨.new, channel, log, pacing, 0⟩

/-- The controller that a configuration gives, if there is room for its events. -/
def ofConfig? (channel : Channel) (config : Config) : Option Controller :=
  (EventLog.reserve? config.interpreter.eventBuffer).map fun log =>
    .new channel log config.interpreter.pacingDelay

/-- The time in whole milliseconds. -/
def now (c : Controller) : Nat := c.clock.millis

def setTime (c : Controller) (clock : Duration) : Controller :=
  { c with clock }

def emit (c : Controller) (severity : Severity) (message : String) : Controller :=
  { c with log := c.log.emit ⟨severity, message⟩ }

/-- The token with a run more, if none goes on. -/
def beginRun (c : Controller) : Controller :=
  match c.token.begin? with
  | some (_, token) => { c with token, log := c.log.clear }
  | none => c

def raise (c : Controller) (signal : StopSignal) : Controller :=
  match signal with
  | .none => c
  | .cooperative => { c with token := c.token.requestStop }
  | .emergency => { c with token := c.token.requestEmergencyStop }

def release (c : Controller) (ticket : Ticket) : Controller :=
  { c with token := (c.token.release ticket).2 }

def apply (c : Controller) : Effect → Controller
  | .began => c.beginRun
  | .planned .. => c
  | .emitted e => { c with log := c.log.emit e }
  | .failed _ fault => c.emit .error fault.message
  | .sent d => { c with channel := c.channel.record d }
  | .refused .. => { c with channel := c.channel.refuse }
  | .raised signal => c.raise signal
  | .finished ticket .. => c.release ticket

/-! ## Calls that take no time -/

/-- Sends the next commands to another address. -/
def setAddress (c : Controller) (address : String) : Controller :=
  { c with
    channel := c.channel.setAddress address
    log := c.log.info ("Robot address set to " ++ Text.trim address) }

def isRunning (c : Controller) : Bool :=
  c.token.running

end Controller

end BlockPilot
