import BlockPilot.Event.Basic

/-!
# The event log

The log keeps the newest events, up to its capacity, and hands every event on to its subscribers.
A subscriber that does not fetch its events in time loses the oldest of them and is told how many.
-/

namespace BlockPilot

/-- What a subscriber has not fetched yet, oldest first, and how many older events are lost. -/
structure Feed where
  waiting : List Event
  missed : Nat
  deriving DecidableEq

namespace Feed

/-- How many events wait for a subscriber at most. -/
def limit : Nat := 256

def empty : Feed := ⟨[], 0⟩

/-- One more event; if too many wait then, the oldest is lost. -/
def push (f : Feed) (e : Event) : Feed :=
  let waiting := f.waiting ++ [e]
  if limit < waiting.length then ⟨waiting.tail, f.missed + 1⟩ else ⟨waiting, f.missed⟩

end Feed

structure EventLog where
  capacity : Nat
  /-- The retained events, oldest first. -/
  events : List Event
  feeds : List Feed
  deriving DecidableEq

namespace EventLog

/-- The capacity of a log for which none is given. -/
def defaultCapacity : Nat := 1000

/-- An empty log; its capacity is one at least. -/
def new (capacity : Nat) : EventLog :=
  ⟨max capacity 1, [], []⟩

/-- The room that one event takes up, in bytes. -/
def eventSize : Nat := 48

/-- The greatest capacity for which the room can be counted. -/
def maxCapacity : Nat := Int64.maxValue.toInt.toNat / eventSize

/-- An empty log whose room is reserved at once, if it can be counted. -/
def reserve? (capacity : Nat) : Option EventLog :=
  if maxCapacity < max capacity 1 then none else some (new capacity)

/-- To reserve the room of a log at once makes no other log, but not for every capacity. -/
theorem reserve?_eq_some {capacity : Nat} {log : EventLog} :
    reserve? capacity = some log ↔ max capacity 1 ≤ maxCapacity ∧ log = new capacity := by
  simp only [reserve?, Option.ite_none_left_eq_some, Option.some.injEq, Nat.not_lt]
  exact and_congr_right fun _ => eq_comm

/-! ## Writing -/

/-- The retained events with one more, without the oldest where there is no room. -/
def retain (capacity : Nat) (events : List Event) (e : Event) : List Event :=
  if capacity ≤ events.length then events.tail ++ [e] else events ++ [e]

def emit (log : EventLog) (e : Event) : EventLog :=
  { log with events := retain log.capacity log.events e, feeds := log.feeds.map (·.push e) }

def info (log : EventLog) (message : String) : EventLog := log.emit ⟨.info, message⟩

def success (log : EventLog) (message : String) : EventLog := log.emit ⟨.success, message⟩

def warning (log : EventLog) (message : String) : EventLog := log.emit ⟨.warning, message⟩

def error (log : EventLog) (message : String) : EventLog := log.emit ⟨.error, message⟩

/-- Drops the retained events; subscribers still get them. -/
def clear (log : EventLog) : EventLog :=
  { log with events := [] }

/-! ## Reading -/

def count (log : EventLog) (severity : Severity) : Nat :=
  (log.events.filter (·.severity == severity)).length

/-- A new subscriber, and its number. -/
def subscribe (log : EventLog) : EventLog × Nat :=
  ({ log with feeds := log.feeds ++ [.empty] }, log.feeds.length)

/-- What a subscriber has not fetched yet, and the log in which it is fetched. -/
def drain? (log : EventLog) (id : Nat) : Option (Feed × EventLog) :=
  log.feeds[id]?.map fun feed => (feed, { log with feeds := log.feeds.set id .empty })

end EventLog

end BlockPilot
