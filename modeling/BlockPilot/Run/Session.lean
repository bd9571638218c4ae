import BlockPilot.Run.Call

/-!
# Sessions

Several calls of one controller on one clock. A call goes on at once until it sleeps, and a sleep
ends at the first whole millisecond that is not too early. When every call sleeps, the clock jumps
to the one that wakes first (`Session.tick?`). A session waits for a call (`Session.runUntil`), and
every tick leaves less to do (`Session.weight_tick_lt`), so that no wait is endless.
-/

namespace BlockPilot

/-- A call of a session. -/
inductive Entry where
  /-- The call sleeps until a time and then goes on with its tasks. -/
  | asleep (call : Call) (time : Nat)
  | ended (call : Call)
  /-- The call was cancelled, or its answer was taken. -/
  | taken

namespace Entry

def isOver : Entry → Bool
  | .asleep .. => false
  | _ => true

/-- What is left to do of the call, the sleep included. -/
def weight : Entry → Nat
  | .asleep call _ => 1 + call.weight
  | _ => 0

/-- When a sleep ends that begins at a time and takes some nanoseconds, in milliseconds. -/
def wakeTime (clock : Duration) (nanoseconds : Nat) : Nat :=
  (clock.nanoseconds + nanoseconds + 999999) / 1000000

/-- A call that has gone on to its next pause. -/
def ofCall (clock : Duration) (call : Call) : Entry :=
  match call.next? with
  | some (nanoseconds, rest) => .asleep rest (wakeTime clock nanoseconds)
  | none => .ended call

theorem weight_ofCall_le (clock : Duration) (call : Call) : (ofCall clock call).weight ≤ call.weight := by
  unfold ofCall
  split
  · rename_i h
    have := Call.weight_next?_lt h
    simp only [weight]
    omega
  · exact Nat.zero_le _

end Entry

structure Session where
  controller : Controller
  entries : List Entry

namespace Session

def new (controller : Controller) : Session := ⟨controller, []⟩

def now (s : Session) : Nat := s.controller.now

/-- What is left to do of all the calls. -/
def weight (s : Session) : Nat :=
  total Entry.weight s.entries

/-! ## The clock -/

/-- The number of the call that wakes first, with the call and the time; numbers begin at
`start`. -/
def earliest? (start : Nat) : List Entry → Option (Nat × Call × Nat)
  | [] => none
  | .asleep call time :: rest =>
    match earliest? (start + 1) rest with
    | some (i, other, t) => if t < time then some (i, other, t) else some (start, call, time)
    | none => some (start, call, time)
  | _ :: rest => earliest? (start + 1) rest

/-- The clock of a session does not wait for a pause of no length. -/
def takesTime (nanoseconds : Nat) : Bool :=
  nanoseconds != 0

/-- Jumps to a time and lets a call go on. -/
def resume (s : Session) (i : Nat) (call : Call) (time : Nat) : Session :=
  let step := call.advance takesTime (s.controller.setTime time)
  ⟨step.1, s.entries.set i (.ofCall step.1.clock step.2)⟩

/-- Lets the call go on that wakes first, unless that is behind the limit. -/
def tick? (s : Session) (limit : Option Nat) : Option Session :=
  match earliest? 0 s.entries with
  | none => none
  | some (i, call, time) =>
    if limit.any (· < time) then none else some (s.resume i call time)

theorem earliest?_spec {entries : List Entry} {start i time : Nat} {call : Call}
    (h : earliest? start entries = some (i, call, time)) :
    start ≤ i ∧ entries[i - start]? = some (.asleep call time) := by
  induction entries generalizing start with
  | nil => simp [earliest?] at h
  | cons entry rest ih =>
    have later (h' : earliest? (start + 1) rest = some (i, call, time)) :
        start ≤ i ∧ (entry :: rest)[i - start]? = some (.asleep call time) := by
      have ⟨hle, hi⟩ := ih h'
      have : i - start = i - (start + 1) + 1 := by omega
      exact ⟨by omega, by rw [this]; simpa using hi⟩
    cases entry with
    | ended c => exact later (by simpa [earliest?] using h)
    | taken => exact later (by simpa [earliest?] using h)
    | asleep c t =>
      simp only [earliest?] at h
      split at h
      · rename_i i' other t' heq
        split at h
        · simp only [Option.some.injEq, Prod.mk.injEq] at h
          obtain ⟨rfl, rfl, rfl⟩ := h
          exact later heq
        · simp only [Option.some.injEq, Prod.mk.injEq] at h
          obtain ⟨rfl, rfl, rfl⟩ := h
          simp
      · simp only [Option.some.injEq, Prod.mk.injEq] at h
        obtain ⟨rfl, rfl, rfl⟩ := h
        simp

/-- Every tick leaves less to do. -/
theorem weight_tick_lt {s t : Session} {limit : Option Nat} (h : s.tick? limit = some t) :
    t.weight < s.weight := by
  unfold tick? at h
  split at h
  · simp at h
  · rename_i i call time heq
    split at h
    · simp at h
    · simp only [Option.some.injEq] at h
      subst h
      have ⟨_, hi⟩ := earliest?_spec heq
      refine total_set_lt hi ?_
      have h₁ := Entry.weight_ofCall_le
        (call.advance takesTime (s.controller.setTime time)).1.clock
        (call.advance takesTime (s.controller.setTime time)).2
      have h₂ := Call.weight_advance_le takesTime (s.controller.setTime time) call
      have h₃ : (Entry.asleep call time).weight = 1 + call.weight := rfl
      omega

/-- Lets calls go on, the first to wake first, until something holds or nothing wakes up to the
limit. -/
def runUntil (limit : Option Nat) (holds : Session → Bool) (s : Session) : Session :=
  if holds s then s
  else
    match _h : s.tick? limit with
    | none => s
    | some t => runUntil limit holds t
termination_by s.weight
decreasing_by exact weight_tick_lt _h

/-- The session at a time, when everything that wakes up to it has gone on. -/
def sleepUntil (s : Session) (time : Nat) : Session :=
  let s := s.runUntil (some time) fun _ => false
  { s with controller := s.controller.setTime (.ofMillis (max time s.now)) }

/-! ## Calls -/

/-- Whether the call with a number is over. -/
def isOver (i : Nat) (s : Session) : Bool :=
  match s.entries[i]? with
  | some entry => entry.isOver
  | none => true

/-- Begins a call, and gives its number. -/
def start (s : Session) (call : Call) : Session × Nat :=
  let i := s.entries.length
  ((⟨s.controller, s.entries ++ [.taken]⟩ : Session).resume i call s.now, i)

/-- The call with a number when it is over. -/
def overCall? (s : Session) (i : Nat) : Option Call :=
  match s.entries[i]? with
  | some (.ended call) => some call
  | _ => none

/-- Gives back the ticket of a call that is dropped where it sleeps. -/
def dropCall (s : Session) (i : Nat) : Session :=
  match s.entries[i]? with
  | some (.asleep call _) =>
    let controller := match call.ticket with
      | some ticket => s.controller.release ticket
      | none => s.controller
    ⟨controller, s.entries.set i .taken⟩
  | _ => ⟨s.controller, s.entries.set i .taken⟩

/-- Does a call from its beginning to its end while the others go on; a call that takes longer
than the timeout is dropped. -/
def perform (s : Session) (call : Call) (timeout : Option Nat) : Session × Option Call :=
  let limit := timeout.map (s.now + ·)
  let (s, i) := s.start call
  let s := s.runUntil limit (isOver i)
  let answer := s.overCall? i
  let s := match limit with
    | some time => if answer.isSome then s else s.sleepUntil time
    | none => s
  let s := s.dropCall i
  ({ s with entries := s.entries.take i }, answer)

/-- What can be said of a run in the background. -/
inductive Joined where
  | unknown
  | cancelled
  | answered (answer : Option Answer)

/-- Waits for the end of a call and takes its answer. -/
def join (s : Session) (i : Nat) : Session × Joined :=
  match s.entries[i]? with
  | none | some .taken => (s, .unknown)
  | some _ =>
    let s := s.runUntil none (isOver i)
    let joined := match s.overCall? i with
      | some call => .answered call.answer
      | none => .cancelled
    ({ s with entries := s.entries.set i .taken }, joined)

/-- Cancels a call, unless it is over already. -/
def abort (s : Session) (i : Nat) : Session × Joined :=
  match s.entries[i]? with
  | none | some .taken => (s, .unknown)
  | some (.ended call) =>
    ({ s with entries := s.entries.set i .taken }, .answered call.answer)
  | some (.asleep ..) => (s.dropCall i, .cancelled)

end Session

/-! ## Observers -/

/-- What an observer has seen already. -/
structure Observer where
  feed : Nat
  records : Nat
  reports : Nat
  transitions : Nat

/-- What has happened since an observer looked the last time. -/
structure Observation where
  sent : List Dispatch
  events : Feed
  transitions : List RunState
  /-- How many transitions were lost. -/
  missed : Nat
  reported : Bool

namespace Observer

/-- How many transitions an observer can make up for. -/
def transitionLimit : Nat := 64

/-- An observer of everything that happens from now on. -/
def new (c : Controller) : Controller × Observer :=
  let (log, feed) := c.log.subscribe
  let reports := match c.channel with
    | .recorder r => r.reports
    | .link _ => 0
  ({ c with log }, ⟨feed, c.channel.records.length, reports, c.token.transitions.length⟩)

/-- Looks at what has happened. -/
def look (o : Observer) (c : Controller) : Controller × Observer × Observation :=
  let records := c.channel.records
  let transitions := c.token.transitions
  let fresh := transitions.length - o.transitions
  let reports := match c.channel with
    | .recorder r => r.reports
    | .link _ => 0
  let (events, log) := (c.log.drain? o.feed).getD (.empty, c.log)
  ({ c with log },
    { o with records := records.length, reports, transitions := transitions.length },
    { sent := (records.take (records.length - o.records)).reverse
      events
      transitions := (transitions.take fresh).reverse
      missed := fresh - transitionLimit
      reported := reports != o.reports })

end Observer

end BlockPilot
