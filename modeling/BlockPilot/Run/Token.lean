/-!
# The run token

At most one run goes on at a time. The token knows whether one does and whether it should stop, and
gives each run a ticket with a number of its own. A stop only raises the signal, which stays raised
until the next run begins; an emergency stop also frees the token at once, so that a new run can
begin while the old one is still asleep. The old ticket is *superseded* then: it stops for ever, and
giving it back changes nothing.
-/

namespace BlockPilot

inductive RunState where
  | idle
  | running
  deriving DecidableEq

def RunState.name : RunState → String
  | .idle => "idle"
  | .running => "running"

inductive StopSignal where
  | none
  | cooperative
  | emergency
  deriving DecidableEq

namespace StopSignal

def name : StopSignal → String
  | .none => "none"
  | .cooperative => "cooperative"
  | .emergency => "emergency"

/-- How urgent a signal is. -/
def urgency : StopSignal → Nat
  | .none => 0
  | .cooperative => 1
  | .emergency => 2

/-- The more urgent of two signals. -/
def max (a b : StopSignal) : StopSignal :=
  if a.urgency < b.urgency then b else a

end StopSignal

/-- What a run holds while it goes on: its number among the runs. -/
structure Ticket where
  generation : Nat
  deriving DecidableEq

structure Token where
  running : Bool
  signal : StopSignal
  /-- The number of the newest run. -/
  generation : Nat
  /-- Every change between running and idle, newest first. -/
  transitions : List RunState
  deriving DecidableEq

namespace Token

def new : Token := ⟨false, .none, 0, []⟩

def state (t : Token) : RunState :=
  if t.running then .running else .idle

def isStopping (t : Token) : Bool :=
  t.signal != .none

/-- Whether a newer run has begun since a ticket was given out. -/
def supersedes (t : Token) (ticket : Ticket) : Bool :=
  t.generation != ticket.generation

/-- Whether the run with a ticket has to stop. -/
def stops (t : Token) (ticket : Ticket) : Bool :=
  t.supersedes ticket || t.isStopping

/-! ## Changes -/

/-- Begins a run unless one goes on. -/
def begin? (t : Token) : Option (Ticket × Token) :=
  if t.running then none
  else
    let generation := t.generation + 1
    some (⟨generation⟩, ⟨true, .none, generation, .running :: t.transitions⟩)

/-- Frees the token, and says whether a run went on. -/
def free (t : Token) : Bool × Token :=
  if t.running then (true, { t with running := false, transitions := .idle :: t.transitions })
  else (false, t)

def requestStop (t : Token) : Token :=
  { t with signal := t.signal.max .cooperative }

def requestEmergencyStop (t : Token) : Token :=
  { t with signal := t.signal.max .emergency }.free.2

/-- Gives a ticket back, and says whether that ended the run. -/
def release (t : Token) (ticket : Ticket) : Bool × Token :=
  if t.supersedes ticket then (false, t) else t.free

end Token

end BlockPilot
