import BlockPilot.Proofs.Script
import BlockPilot.Run.Call

/-!
# What a task does

`Call.doNext` does one task of a call. Most tasks only say something and put their parts in front of
the tasks behind them (`Plain`); what the others do to the token, the channel and the tickets is said
here once for all calls.
-/

namespace BlockPilot

namespace Call

/-- Does the first task of a call. -/
def doNext (c : Controller) (call : Call) : Controller × Call :=
  match call.tasks with
  | [] => (c, call)
  | task :: rest =>
    let step := perform c { call with tasks := rest } task
    (step.1.foldl Controller.apply c, step.2.traced step.1)

/-- What a call has shown so far. -/
def marks (call : Call) : List Mark := call.trace.reverse.flatMap Effect.marks

/-- What the channel has answered to a call so far. -/
def answers (call : Call) : List Bool := call.trace.reverse.filterMap Effect.answer?

theorem doNext_nil {c : Controller} {call : Call} (h : call.tasks = []) :
    call.doNext c = (c, call) := by
  simp [doNext, h]

theorem doNext_cons {c : Controller} {call : Call} {task : Task} {rest : List Task}
    (h : call.tasks = task :: rest) :
    call.doNext c =
      ((perform c { call with tasks := rest } task).1.foldl Controller.apply c,
        (perform c { call with tasks := rest } task).2.traced
          (perform c { call with tasks := rest } task).1) := by
  simp [doNext, h]

/-- Waking is doing a pause. -/
theorem doNext_next? {c : Controller} {call rest : Call} {n : Nat}
    (h : call.next? = some (n, rest)) : call.doNext c = (c, rest) := by
  unfold next? at h
  split at h
  · rename_i ht
    simp only [Option.some.injEq, Prod.mk.injEq] at h
    obtain ⟨_, rfl⟩ := h
    simp [doNext_cons ht, perform, traced]
  · cases h

theorem advance_nil {waits : Nat → Bool} {c : Controller} {call : Call} (h : call.tasks = []) :
    call.advance waits c = (c, call) := by
  rw [advance.eq_def]
  split
  · rfl
  · simp_all

theorem advance_pause {waits : Nat → Bool} {c : Controller} {call : Call} {task : Task}
    {rest : List Task} (h : call.tasks = task :: rest) (hp : task.isPause waits = true) :
    call.advance waits c = (c, call) := by
  rw [advance.eq_def]
  split
  · rfl
  · rename_i task' rest' h'
    obtain ⟨rfl, rfl⟩ : task = task' ∧ rest = rest' := by simpa using h.symm.trans h'
    simp [hp]

/-- Doing a task that is no pause is one step of going on. -/
theorem advance_doNext {waits : Nat → Bool} {c : Controller} {call : Call} {task : Task}
    {rest : List Task} (h : call.tasks = task :: rest) (hp : task.isPause waits = false) :
    call.advance waits c = (call.doNext c).2.advance waits (call.doNext c).1 := by
  rw [advance.eq_def]
  split
  · rename_i h'
    rw [h] at h'
    cases h'
  · rename_i task' rest' h'
    rw [h] at h'
    cases h'
    simp only [hp, Bool.false_eq_true, if_false, doNext_cons h]

theorem weight_doNext_lt {c : Controller} {call : Call} {task : Task} {rest : List Task}
    (h : call.tasks = task :: rest) : (call.doNext c).2.weight < call.weight := by
  have := weight_perform_lt c { call with tasks := rest } task
  rw [doNext_cons h, weight_traced]
  simpa [weight, h] using this

end Call

/-! ## What a task can do -/

/-- Whether an effect leaves the token alone. -/
def Effect.isQuiet : Effect → Bool
  | .began | .raised _ | .finished .. => false
  | _ => true

/-- Whether an effect only says something. -/
def Effect.isWord : Effect → Bool
  | .emitted _ | .failed .. => true
  | _ => false

theorem Effect.isQuiet_of_isWord {e : Effect} (h : e.isWord = true) : e.isQuiet = true := by
  cases e with
  | began | raised | finished => cases h
  | planned | emitted | failed | sent | refused => rfl

/-- Whether a task neither begins nor ends a run, nor raises a signal, nor sends a command. -/
def Task.isPlain : Task → Bool
  | .begin _ | .conclude | .finish _ | .raise _ | .send _ => false
  | _ => true

/-- Whether a task is put in front of the others by a plain one. -/
def Task.isPart : Task → Bool
  | .begin _ | .conclude | .finish _ | .raise _ => false
  | _ => true

/-- What a plain task does: it says something and puts its parts in front of the other tasks. -/
structure Plain (call : Call) (step : List Effect × Call) : Prop where
  words : ∀ e ∈ step.1, e.isWord = true
  tasks : ∃ more, step.2.tasks = more ++ call.tasks ∧ ∀ t ∈ more, t.isPart = true
  ticket : step.2.ticket = call.ticket
  answer : step.2.answer = call.answer ∨ ∃ reachable, step.2.answer = some (.tested reachable)
  trace : step.2.trace = call.trace

namespace Plain

variable {call : Call}

theorem same : Plain call ([], call) := ⟨by simp, ⟨[], rfl, by simp⟩, rfl, Or.inl rfl, rfl⟩

theorem fail (kind : BlockKind) (fault : NodeFault) : Plain call (call.fail kind fault) :=
  ⟨by simp [Call.fail, Effect.isWord], ⟨[], rfl, by simp⟩, rfl, Or.inl rfl, rfl⟩

theorem push {effects : List Effect} {more : List Task} (h : ∀ e ∈ effects, e.isWord = true)
    (hm : ∀ t ∈ more, t.isPart = true) : Plain call (effects, call.push more) :=
  ⟨h, ⟨more, rfl, hm⟩, rfl, Or.inl rfl, rfl⟩

theorem head (c : Controller) (call : Call) (first : Chain) :
    Plain call (Call.doHead c call first) := by
  cases first with
  | nil => exact same
  | block b next =>
    simp only [Call.doHead]
    split
    · exact same
    · split
      · exact fail ..
      · rename_i deed _
        exact push (by simp [Effect.isWord]) (by cases deed <;> simp [Call.deedTasks, Task.isPart])
  | loop kind times body next =>
    simp only [Call.doHead]
    split
    · exact same
    · split
      · exact fail ..
      · exact push (by simp [Effect.isWord]) (by split <;> simp [Task.isPart])

theorem perform (c : Controller) (call : Call) {task : Task} (h : task.isPlain = true) :
    Plain call (Call.perform c call task) := by
  cases task with
  | pause => exact same
  | emit => exact ⟨by simp [Call.perform, Effect.isWord], ⟨[], rfl, by simp⟩, rfl, Or.inl rfl, rfl⟩
  | head first => exact head c call first
  | chain rest =>
    cases rest with
    | nil => exact same
    | block | loop =>
      simp only [Call.perform]
      split
      · exact same
      · exact push (by simp) (by simp [Task.isPart])
  | loop body left =>
    cases left with
    | zero => exact same
    | succ left =>
      simp only [Call.perform]
      split
      · exact same
      · exact push (by simp) (by simp [Task.isPart])
  | sequences rest =>
    cases rest with
    | nil => exact same
    | cons first rest =>
      simp only [Call.perform]
      split
      · exact same
      · exact push (by simp) (by simp [Task.isPart])
  | probe =>
    simp only [Call.perform, Call.doProbe]
    split
    · exact ⟨by simp [Effect.isWord], ⟨[], rfl, by simp⟩, rfl, Or.inr ⟨false, rfl⟩, rfl⟩
    · exact push (by simp [Effect.isWord]) (by simp [Task.isPart])
  | verdict =>
    refine ⟨?_, ⟨[], rfl, by simp⟩, rfl, Or.inr ⟨call.reachable, rfl⟩, rfl⟩
    simp only [Call.perform, Call.doVerdict]
    split <;> simp [Effect.isWord]
  | begin | conclude | finish | raise | send => cases h

end Plain

namespace Call

/-- A task touches neither what its call did before nor the tasks behind it. -/
theorem perform_frame (c : Controller) (call : Call) (task : Task) :
    (perform c call task).2.trace = call.trace ∧ call.tasks <:+ (perform c call task).2.tasks := by
  have pushed (more : List Task) : call.tasks <:+ (call.push more).tasks := List.suffix_append _ _
  cases hp : task.isPlain with
  | true =>
    have h := Plain.perform c call hp
    obtain ⟨more, hm, -⟩ := h.tasks
    exact ⟨h.trace, hm ▸ List.suffix_append _ _⟩
  | false =>
    cases task with
    | finish | raise => exact ⟨rfl, List.suffix_rfl⟩
    | send command =>
      simp only [perform, doSend]
      split
      · exact ⟨rfl, pushed _⟩
      · exact ⟨rfl, List.suffix_rfl⟩
    | begin p =>
      simp only [perform, doBegin]
      split
      · exact ⟨rfl, List.suffix_rfl⟩
      · exact ⟨rfl, pushed _⟩
    | conclude =>
      simp only [perform]
      split
      · exact ⟨rfl, pushed _⟩
      · exact ⟨rfl, pushed _⟩
    | pause | emit | head | chain | loop | sequences | probe | verdict => cases hp

/-- What a task does is added to what its call did before. -/
theorem trace_doNext {c : Controller} {call : Call} {task : Task} {rest : List Task}
    (h : call.tasks = task :: rest) :
    (call.doNext c).2.trace.reverse =
      call.trace.reverse ++ (perform c { call with tasks := rest } task).1 := by
  simp [doNext_cons h, traced, (perform_frame c { call with tasks := rest } task).1]

/-- The tasks behind the first stay. -/
theorem suffix_doNext {c : Controller} {call : Call} {task : Task} {rest : List Task}
    (h : call.tasks = task :: rest) : rest <:+ (call.doNext c).2.tasks := by
  rw [doNext_cons h]
  exact (perform_frame c { call with tasks := rest } task).2

end Call

/-! ## The token and the channel -/

theorem Controller.token_foldl {effects : List Effect} (h : ∀ e ∈ effects, e.isQuiet = true)
    (c : Controller) : (effects.foldl Controller.apply c).token = c.token := by
  induction effects generalizing c with
  | nil => rfl
  | cons e es ih =>
    rw [List.foldl_cons, ih (fun x hx => h x (by simp [hx]))]
    have := h e (by simp)
    cases e with
    | began | raised | finished => simp [Effect.isQuiet] at this
    | planned | emitted | failed | sent | refused => rfl

/-- Whether an effect is about a command. -/
def Effect.isCommand : Effect → Bool
  | .sent _ | .refused .. => true
  | _ => false

theorem Controller.channel_apply {c : Controller} {e : Effect} (h : e.isCommand = false) :
    (c.apply e).channel = c.channel := by
  cases e with
  | began =>
    simp only [apply, beginRun]
    split <;> rfl
  | raised signal => cases signal <;> rfl
  | planned | emitted | failed | finished => rfl
  | sent | refused => cases h

theorem Controller.channel_foldl {effects : List Effect} (h : ∀ e ∈ effects, e.isCommand = false)
    (c : Controller) : (effects.foldl Controller.apply c).channel = c.channel := by
  induction effects generalizing c with
  | nil => rfl
  | cons e effects ih =>
    rw [List.foldl_cons, ih (fun x hx => h x (by simp [hx])), channel_apply (h e (by simp))]

namespace Call

variable {c : Controller} {call : Call} {task : Task} {rest : List Task}

/-- Only a run takes and gives back tickets, and only a stop raises signals. -/
theorem perform_quiet (c : Controller) (call : Call) {task : Task} (hb : ∀ p, task ≠ .begin p)
    (hf : ∀ o, task ≠ .finish o) (hr : ∀ s, task ≠ .raise s) :
    (∀ e ∈ (perform c call task).1, e.isQuiet = true) ∧ (perform c call task).2.ticket = call.ticket := by
  cases hp : task.isPlain with
  | true =>
    have h := Plain.perform c call hp
    exact ⟨fun e he => Effect.isQuiet_of_isWord (h.words e he), h.ticket⟩
  | false =>
    cases task with
    | begin p => exact absurd rfl (hb p)
    | finish o => exact absurd rfl (hf o)
    | raise s => exact absurd rfl (hr s)
    | send command =>
      simp only [perform, doSend]
      split <;> exact ⟨by simp [Effect.isQuiet], rfl⟩
    | conclude =>
      simp only [perform]
      split
      · exact ⟨by simp, rfl⟩
      · exact ⟨by simp [Effect.isQuiet], rfl⟩
    | pause | emit | head | chain | loop | sequences | probe | verdict => cases hp

/-- A call gives its ticket back only where it ends. -/
theorem ticket_doNext (ht : call.tasks = task :: rest) (hb : ∀ p, task ≠ .begin p)
    (hf : ∀ o, task ≠ .finish o) : (call.doNext c).2.ticket = call.ticket := by
  rw [doNext_cons ht]
  by_cases hr : ∃ s, task = .raise s
  · obtain ⟨s, rfl⟩ := hr
    rfl
  · exact (perform_quiet c { call with tasks := rest } hb hf fun s h => hr ⟨s, h⟩).2

/-- Only a run that begins says so. -/
theorem perform_ne_began (c : Controller) (call : Call) {task : Task} (hb : ∀ p, task ≠ .begin p) :
    ∀ e ∈ (perform c call task).1, e ≠ .began := by
  by_cases hf : ∃ o, task = .finish o
  · obtain ⟨o, rfl⟩ := hf
    simp [perform, doFinish]
  by_cases hr : ∃ s, task = .raise s
  · obtain ⟨s, rfl⟩ := hr
    simp [perform]
  rintro e he rfl
  have := (perform_quiet c call hb (fun o h => hf ⟨o, h⟩) fun s h => hr ⟨s, h⟩).1 _ he
  cases this

/-- Only sending a command touches the channel. -/
theorem channel_doNext (ht : call.tasks = task :: rest) (hs : ∀ command, task ≠ .send command) :
    (call.doNext c).1.channel = c.channel := by
  rw [doNext_cons ht]
  refine Controller.channel_foldl (fun e he => ?_) c
  cases hp : task.isPlain with
  | true =>
    have hw := (Plain.perform c { call with tasks := rest } hp).words e he
    cases e with
    | sent | refused => cases hw
    | _ => rfl
  | false =>
    cases task with
    | send command => exact absurd rfl (hs command)
    | begin p =>
      simp only [perform, doBegin] at he
      split at he
      · simp at he
      · simp only [List.mem_cons, List.not_mem_nil, or_false] at he
        rcases he with rfl | rfl | rfl <;> rfl
    | finish o =>
      simp only [perform, doFinish, List.mem_map] at he
      obtain ⟨k, -, rfl⟩ := he
      rfl
    | raise s =>
      obtain rfl : e = .raised s := by simpa [perform] using he
      rfl
    | conclude =>
      simp only [perform] at he
      split at he
      · simp at he
      · obtain rfl : e = .emitted ⟨.success, "Complete!"⟩ := by simpa using he
        rfl
    | pause | emit | head | chain | loop | sequences | probe | verdict => cases hp

theorem stops_of_none (h : call.ticket = none) : call.stops c = false := by
  simp [stops, h]

theorem stops_of_some {k : Ticket} (h : call.ticket = some k) :
    call.stops c = c.token.stops k := by
  simp [stops, h]

/-- While a task leaves the token and the ticket alone, it changes nothing about whether to stop. -/
theorem stops_doNext (ht : call.tasks = task :: rest)
    (hq : ∀ e ∈ (perform c { call with tasks := rest } task).1, e.isQuiet = true)
    (hk : (perform c { call with tasks := rest } task).2.ticket = call.ticket) :
    (call.doNext c).2.stops (call.doNext c).1 = call.stops c := by
  rw [doNext_cons ht]
  simp only [stops, traced, hk, Controller.token_foldl hq]

end Call

end BlockPilot
