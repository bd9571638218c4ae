import BlockPilot.Run.Controller

/-!
# Calls

A call of the controller is a list of tasks that are done one after the other. A task does
something at once and may put other tasks in front of the rest; the only task that takes time is a
pause. `Call.advance` goes on to the next pause, so that other calls can do something only while
this one sleeps. Whether a pause of no length is one depends on the clock.

A run begins by taking a ticket and ends by giving it back. Before each sequence, each block and
each turn of a loop it looks whether it has to stop, and then only stop blocks still run. A block
that cannot be run is reported and counted, and the next one runs.
-/

namespace BlockPilot

inductive Task where
  | pause (nanoseconds : Nat)
  | emit (event : Event)
  | send (command : Command)
  /-- The first block of a chain. -/
  | head (c : Chain)
  /-- All the blocks of a chain. -/
  | chain (c : Chain)
  /-- The turns of a loop that are left. -/
  | loop (body : Chain) (left : Nat)
  | sequences (rest : List Chain)
  | begin (p : Program)
  /-- The end of a run behind its last sequence. -/
  | conclude
  | finish (outcome : Outcome)
  | raise (signal : StopSignal)
  /-- The beginning of a connection test. -/
  | probe
  /-- The end of a connection test. -/
  | verdict

/-- The answer of a call. -/
inductive Answer where
  | ran (outcome : Outcome) (errors : Nat)
  | tested (reachable : Bool)
  deriving DecidableEq

structure Call where
  tasks : List Task
  /-- The ticket that the call holds. -/
  ticket : Option Ticket
  /-- How many blocks could not be run. -/
  errors : Nat
  /-- Whether every command was sent. -/
  reachable : Bool
  answer : Option Answer
  /-- What the call did, newest first. -/
  trace : List Effect

/-! ## The size of what is left to do -/

/-- A bound on the number of tasks that running a chain takes. -/
def Chain.weight : Chain → Nat
  | .nil => 1
  | .block _ next => 6 + next.weight
  | .loop kind times body next =>
    6 + ((kind.count times).toOption.getD 0) * (1 + body.weight) + next.weight

def Task.weight : Task → Nat
  | .pause _ | .emit _ | .raise _ | .finish _ | .verdict => 1
  | .send _ => 2
  | .head c => 1 + (c.weight - c.next.weight - 2)
  | .chain c => c.weight
  | .loop body left => 1 + left * (1 + body.weight)
  | .sequences rest => 1 + total (fun c => 1 + c.weight) rest
  | .begin p => 8 + total (fun c => 1 + c.weight) p.sequences
  | .conclude => 4
  | .probe => 12

/-- Whether a task is a pause on a clock that waits for some lengths only. -/
def Task.isPause (waits : Nat → Bool) : Task → Bool
  | .pause nanoseconds => waits nanoseconds
  | _ => false

def Call.weight (call : Call) : Nat :=
  total Task.weight call.tasks

namespace Call

/-! ## The calls of a controller -/

def ofTasks (tasks : List Task) : Call :=
  ⟨tasks, none, 0, true, none, []⟩

def run (p : Program) : Call := ofTasks [.begin p]

def stop : Call :=
  ofTasks [.raise .cooperative, .send ⟨.stop, none⟩, .emit ⟨.warning, "Stopped"⟩]

def emergencyStop : Call :=
  ofTasks [.raise .emergency, .send ⟨.stop, none⟩, .emit ⟨.error, "EMERGENCY STOP!"⟩]

def testConnection : Call := ofTasks [.probe]

/-- The tasks of a run that has its ticket already. -/
def withTicket (ticket : Ticket) (tasks : List Task) : Call :=
  { ofTasks tasks with ticket := some ticket }

/-! ## Steps -/

/-- The pause between the commands of a connection test, in nanoseconds. -/
def testPause : Nat := 400000000

/-- Whether the call holds a ticket that has to stop. -/
def stops (call : Call) (c : Controller) : Bool :=
  call.ticket.any c.token.stops

/-- The call with more tasks in front. -/
def push (call : Call) (tasks : List Task) : Call :=
  { call with tasks := tasks ++ call.tasks }

/-- Sends a command and settles, or says that the robot cannot be reached. -/
def doSend (c : Controller) (call : Call) (command : Command) : List Effect × Call :=
  if c.channel.accepts command then
    ([.sent ⟨command, c.clock⟩], call.push [.pause c.channel.settle.nanoseconds])
  else
    ([.refused command (c.channel.refusal? command),
      .emitted ⟨.error, "Robot unreachable, '" ++ command.action.name ++ "' not sent"⟩],
      { call with reachable := false })

/-- The tasks of a deed. -/
def deedTasks : Deed → List Task
  | .nothing => []
  | .send command => [.send command]
  | .wait nanoseconds => [.pause nanoseconds]

def fail (call : Call) (kind : BlockKind) (fault : NodeFault) : List Effect × Call :=
  ([.failed kind fault], { call with errors := call.errors + 1 })

/-- Runs the first block of a chain, and pauses behind it. -/
def doHead (c : Controller) (call : Call) : Chain → List Effect × Call
  | .nil => ([], call)
  | .block b _ =>
    if call.stops c && !b.runsStopped then ([], call)
    else match b.meaning with
      | .error fault => call.fail b.kind fault
      | .ok (message, deed) =>
        ([.emitted ⟨.info, message⟩], call.push (deedTasks deed ++ [.pause c.pacing.nanoseconds]))
  | .loop kind times body _ =>
    if call.stops c then ([], call)
    else match kind.count times with
      | .error fault => call.fail .loop fault
      | .ok n =>
        ([.emitted ⟨.info, loopMessage n⟩],
          call.push ((if body.isEmpty then [] else [.loop body n]) ++
            [.pause c.pacing.nanoseconds]))

/-- Begins a run unless one goes on. -/
def doBegin (c : Controller) (call : Call) (p : Program) : List Effect × Call :=
  match c.token.begin? with
  | none => ([], { call with answer := some (.ran .alreadyRunning 0) })
  | some (ticket, _) =>
    ([.began, .emitted ⟨.success, "Starting..."⟩, .planned p.sequences.length p.count],
      { call with ticket := some ticket }.push [.sequences p.sequences, .conclude])

/-- Gives the ticket back and reports. -/
def doFinish (call : Call) (outcome : Outcome) : List Effect × Call :=
  (call.ticket.toList.map fun ticket => .finished ticket outcome call.errors,
    { call with ticket := none, answer := some (.ran outcome call.errors) })

/-- Begins a connection test unless a run goes on. -/
def doProbe (c : Controller) (call : Call) : List Effect × Call :=
  if c.isRunning then
    ([.emitted ⟨.warning, "Cannot test the connection while a program is running"⟩],
      { call with answer := some (.tested false) })
  else
    ([.emitted ⟨.info, "Testing connection..."⟩],
      call.push [.send ⟨.forward, none⟩, .pause testPause, .send ⟨.backward, none⟩,
        .pause testPause, .send ⟨.stop, none⟩, .verdict])

def doVerdict (call : Call) : List Effect × Call :=
  (if call.reachable then
      [.emitted ⟨.success, "Test commands sent. If the robot moved, it works!"⟩]
    else [],
    { call with answer := some (.tested call.reachable) })

/-- Does one task; `call` holds the tasks behind it. -/
def perform (c : Controller) (call : Call) : Task → List Effect × Call
  | .pause _ => ([], call)
  | .emit event => ([.emitted event], call)
  | .send command => doSend c call command
  | .head first => doHead c call first
  | .chain .nil => ([], call)
  | .chain rest =>
    if call.stops c then ([], call) else ([], call.push [.head rest, .chain rest.next])
  | .loop _ 0 => ([], call)
  | .loop body (left + 1) =>
    if call.stops c then ([], call) else ([], call.push [.chain body, .loop body left])
  | .sequences [] => ([], call)
  | .sequences (first :: rest) =>
    if call.stops c then ([], call) else ([], call.push [.chain first, .sequences rest])
  | .begin p => doBegin c call p
  | .conclude =>
    if call.stops c then ([], call.push [.finish .stopped])
    else ([.emitted ⟨.success, "Complete!"⟩],
      call.push [.send ⟨.stop, none⟩, .finish .completed])
  | .finish outcome => call.doFinish outcome
  | .raise signal => ([.raised signal], call)
  | .probe => doProbe c call
  | .verdict => call.doVerdict

end Call

/-! ## Steps make the rest smaller -/

namespace Call

theorem weight_push (call : Call) (tasks : List Task) :
    (call.push tasks).weight = total Task.weight tasks + call.weight := by
  simp [weight, push]

theorem weight_doSend_le (c : Controller) (call : Call) (command : Command) :
    (doSend c call command).2.weight ≤ 1 + call.weight := by
  unfold doSend
  split
  · simp [weight_push, Task.weight]
  · simp [weight]

theorem weight_deedTasks_le (d : Deed) : total Task.weight (deedTasks d) ≤ 2 := by
  cases d <;> simp [deedTasks, Task.weight]

theorem weight_doHead_lt (c : Controller) (call : Call) (first : Chain) :
    (doHead c call first).2.weight < (Task.head first).weight + call.weight := by
  cases first with
  | nil => simp [doHead, Task.weight, Chain.weight, Chain.next]
  | block b next =>
    simp only [doHead, Task.weight, Chain.weight, Chain.next]
    split
    · show call.weight < _
      omega
    · split
      · simp only [fail, weight]
        omega
      · rename_i deed _
        have := weight_deedTasks_le deed
        simp only [weight_push, total_append, total_cons, total_nil, Task.weight]
        omega
  | loop kind times body next =>
    simp only [doHead, Task.weight, Chain.weight, Chain.next]
    split
    · show call.weight < _
      omega
    · split
      · simp only [fail, weight]
        omega
      · rename_i n hn
        simp only [hn, Except.toOption, Option.getD_some, weight_push]
        split <;> simp [Task.weight] <;> omega

/-- Every task leaves less to do than it was. -/
theorem weight_perform_lt (c : Controller) (call : Call) (task : Task) :
    (perform c call task).2.weight < task.weight + call.weight := by
  cases task with
  | pause n => simp [perform, Task.weight]
  | emit e => simp [perform, Task.weight]
  | raise s => simp [perform, Task.weight]
  | finish o => simp [perform, doFinish, Task.weight, weight]
  | verdict => simp [perform, doVerdict, Task.weight, weight]
  | send command =>
    have := weight_doSend_le c call command
    simp only [perform, Task.weight]
    omega
  | head first => exact weight_doHead_lt c call first
  | chain rest =>
    cases rest with
    | nil => simp [perform, Task.weight, Chain.weight]
    | block b next =>
      simp only [perform]
      split
      · simp only [Task.weight, Chain.weight]
        omega
      · simp [weight_push, Task.weight, Chain.weight, Chain.next]
    | loop kind times body next =>
      simp only [perform]
      split
      · simp only [Task.weight, Chain.weight]
        omega
      · simp [weight_push, Task.weight, Chain.weight, Chain.next]
        omega
  | loop body left =>
    cases left with
    | zero => simp [perform, Task.weight]
    | succ left =>
      simp only [perform]
      split
      · simp only [Task.weight]; omega
      · simp [weight_push, Task.weight, Nat.add_mul]; omega
  | sequences rest =>
    cases rest with
    | nil => simp [perform, Task.weight]
    | cons first rest =>
      simp only [perform]
      split
      · simp only [Task.weight]; omega
      · simp [weight_push, Task.weight]; omega
  | begin p =>
    simp only [perform, doBegin]
    split
    · simp only [Task.weight, weight]; omega
    · rw [weight_push]
      simp [Task.weight, weight]
      omega
  | conclude =>
    simp only [perform]
    split <;> simp [weight_push, Task.weight]
  | probe =>
    simp only [perform, doProbe]
    split
    · simp [Task.weight, weight]
    · simp [weight_push, Task.weight]

/-! ## Going on to the next pause -/

/-- The call after what it did. -/
def traced (call : Call) (effects : List Effect) : Call :=
  { call with trace := effects.reverse ++ call.trace }

/-- The call without what it did. -/
def untraced (call : Call) : Call :=
  { call with trace := [] }

theorem weight_traced (call : Call) (effects : List Effect) :
    (call.traced effects).weight = call.weight := rfl

/-- Does everything in front of the next pause; `waits` says for which lengths there is one. -/
def advance (waits : Nat → Bool) (c : Controller) (call : Call) : Controller × Call :=
  match _h : call.tasks with
  | [] => (c, call)
  | task :: rest =>
    if task.isPause waits then (c, call)
    else
      let step := perform c { call with tasks := rest } task
      advance waits (step.1.foldl Controller.apply c) (step.2.traced step.1)
termination_by call.weight
decreasing_by
  have := weight_perform_lt c { call with tasks := rest } task
  simp only [weight_traced]
  simp only [weight, _h, total_cons] at this ⊢
  omega

/-- The pause in front, and the call behind it. -/
def next? (call : Call) : Option (Nat × Call) :=
  match call.tasks with
  | .pause nanoseconds :: rest => some (nanoseconds, { call with tasks := rest })
  | _ => none

theorem weight_next?_lt {call rest : Call} {nanoseconds : Nat}
    (h : call.next? = some (nanoseconds, rest)) : rest.weight < call.weight := by
  unfold next? at h
  split at h
  · rename_i heq
    simp only [Option.some.injEq, Prod.mk.injEq] at h
    obtain ⟨_, rfl⟩ := h
    simp [weight, heq, Task.weight]
  · simp at h

theorem weight_advance_le (waits : Nat → Bool) (c : Controller) (call : Call) :
    (advance waits c call).2.weight ≤ call.weight := by
  fun_induction advance waits c call with
  | case1 c call h => exact Nat.le_refl _
  | case2 c call task rest h _ => exact Nat.le_refl _
  | case3 c call task rest h _ step ih =>
    have := weight_perform_lt c { call with tasks := rest } task
    rw [weight_traced] at ih
    have hw : call.weight = task.weight + Call.weight { call with tasks := rest } := by
      simp [weight, h]
    exact Nat.le_trans ih (by rw [hw]; exact Nat.le_of_lt this)

end Call

end BlockPilot
