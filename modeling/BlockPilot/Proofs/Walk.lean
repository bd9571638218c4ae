import BlockPilot.Proofs.TaskStep

/-!
# Walking through blocks

The tasks between the beginning and the end of a run have a script of their own (`Task.script`).
While a run need not stop, each of them shows its script, at once or by the tasks that it puts in
front (`Walked.perform`); when it has to stop, those that look at the ticket do nothing
(`Call.perform_of_stops`).
-/

namespace BlockPilot

/-! ## The script of tasks -/

/-- What a task still shows when its run is not told to stop. -/
def Task.script : Task → List Cue
  | .emit event => [.say event]
  | .send command => [.send command]
  | .head c => (c.withNext .nil).script
  | .chain c => c.script
  | .loop body left => turnCues left body.script
  | .sequences rest => rest.flatMap Chain.script
  | _ => []

/-- Whether a task looks at the ticket before it does anything. -/
def Task.looks : Task → Bool
  | .pause _ | .chain _ | .loop .. | .sequences _ => true
  | _ => false

/-- Whether a task acts for a block without looking at the ticket. -/
def Task.acts : Task → Bool
  | .head _ | .send _ => true
  | _ => false

/-- Tasks of which only the first may act without looking at the ticket. -/
def Lined : List Task → Prop
  | [] => True
  | task :: rest => (task.looks = true ∨ task.acts = true) ∧ ∀ t ∈ rest, t.looks = true

theorem Lined.of_looks {tasks : List Task} (h : ∀ t ∈ tasks, t.looks = true) : Lined tasks := by
  cases tasks with
  | nil => trivial
  | cons task rest => exact ⟨Or.inl (h task (by simp)), fun t ht => h t (by simp [ht])⟩

theorem Lined.append {a b : List Task} (h : Lined a) (hb : ∀ t ∈ b, t.looks = true) :
    Lined (a ++ b) := by
  cases a with
  | nil => exact Lined.of_looks hb
  | cons task rest =>
    refine ⟨h.1, fun t ht => ?_⟩
    rcases List.mem_append.1 ht with ht | ht
    · exact h.2 t ht
    · exact hb t ht

theorem Chain.script_withNext (c : Chain) : (c.withNext .nil).script ++ c.next.script = c.script := by
  cases c <;> simp [withNext, next, script]

theorem Chain.script_of_isEmpty {c : Chain} (h : c.isEmpty = true) : c.script = [] := by
  cases c <;> simp_all [isEmpty, script]

/-! ## One task of a walk -/

/-- What a deed shows. -/
def Deed.script : Deed → List Cue
  | .send command => [.send command]
  | .nothing | .wait _ => []

/-- The script of a block is its message and its deed, or the fault of its meaning. -/
theorem Block.script_eq (b : Block) :
    b.script = cuesOf (fun r => .say ⟨.info, r.1⟩ :: r.2.script) b.meaning := by
  cases b with
  | move d =>
    simp only [script, meaning]
    cases Field.direction d <;> rfl
  | wait s =>
    simp only [script, meaning]
    cases Field.duration s <;> rfl
  | setSpeed s =>
    simp only [script, meaning]
    cases Field.speed s <;> rfl
  | print m =>
    simp only [script, meaning]
    cases Field.message m <;> rfl
  | stop | unsupported => rfl

/-- What one task does to its call: it shows `now`, puts `more` in front of the rest and counts
what could not be run. -/
structure Steps (call : Call) (step : List Effect × Call) (now : List Cue) (more : List Task)
    (ticket : Option Ticket) (answer : Option Answer) : Prop where
  shown : Plays step.1 now
  tasks : step.2.tasks = more ++ call.tasks
  ticket : step.2.ticket = ticket
  answer : step.2.answer = answer
  trace : step.2.trace = call.trace
  errors : step.2.errors = call.errors + faults now

/-- What one task of a walk does: what it does not show at once it leaves to the tasks that it puts
in front. -/
structure Walked (call : Call) (task : Task) (step : List Effect × Call) (now : List Cue)
    (more : List Task) : Prop extends Steps call step now more call.ticket call.answer where
  quiet : ∀ e ∈ step.1, e.isQuiet = true
  lined : Lined more
  script : now ++ more.flatMap Task.script = task.script

theorem Walked.send (c : Controller) (call : Call) (command : Command) :
    ∃ more, Walked call (.send command) (Call.doSend c call command) [.send command] more ∧
      ∀ t ∈ more, ∃ n, t = .pause n := by
  unfold Call.doSend
  split
  · refine ⟨[.pause c.channel.settle.nanoseconds], ⟨⟨Plays.sent command c.clock, rfl, rfl, rfl, rfl, rfl⟩,
      by simp [Effect.isQuiet], ?_, rfl⟩, by simp⟩
    exact Lined.of_looks (by simp [Task.looks])
  · exact ⟨[], ⟨⟨Plays.refused command _, rfl, rfl, rfl, rfl, rfl⟩, by simp [Effect.isQuiet], trivial, rfl⟩,
      by simp⟩

theorem Walked.fail (call : Call) (task : Task) (kind : BlockKind) (fault : NodeFault)
    (h : task.script = [.fail fault]) : Walked call task (call.fail kind fault) [.fail fault] [] :=
  ⟨⟨Plays.failed kind fault, rfl, rfl, rfl, rfl, rfl⟩, by simp [Call.fail, Effect.isQuiet], trivial, h.symm⟩

theorem Walked.head (c : Controller) (call : Call) (first : Chain) (h : call.stops c = false) :
    ∃ now more, Walked call (.head first) (Call.doHead c call first) now more := by
  cases first with
  | nil =>
    exact ⟨[], [], ⟨Plays.nil, rfl, rfl, rfl, rfl, rfl⟩, by simp [Call.doHead], trivial, rfl⟩
  | block b next =>
    have hs : (Task.head (.block b next)).script = b.script := by
      simp [Task.script, Chain.withNext, Chain.script]
    simp only [Call.doHead, h, Bool.false_and, Bool.false_eq_true, if_false]
    split
    · rename_i fault hm
      refine ⟨_, _, Walked.fail call _ b.kind fault ?_⟩
      rw [hs, b.script_eq, hm]
      rfl
    · rename_i message deed hm
      refine ⟨[.say ⟨.info, message⟩], Call.deedTasks deed ++ [.pause c.pacing.nanoseconds],
        ⟨Plays.emitted _, rfl, rfl, rfl, rfl, rfl⟩, by simp [Effect.isQuiet], ?_, ?_⟩
      · cases deed <;> simp [Call.deedTasks, Lined, Task.looks, Task.acts]
      · rw [hs, b.script_eq, hm]
        cases deed <;> simp [Call.deedTasks, Task.script, Deed.script, cuesOf]
  | loop kind times body next =>
    have hs : (Task.head (.loop kind times body next)).script =
        cuesOf (fun n => .say ⟨.info, "Repeat " ++ toString n ++ "x"⟩ :: turnCues n body.script)
          (kind.count times) := by
      simp [Task.script, Chain.withNext, Chain.script, LoopKind.count]
    simp only [Call.doHead, h, Bool.false_eq_true, if_false]
    split
    · rename_i fault hc
      refine ⟨_, _, Walked.fail call _ .loop fault ?_⟩
      rw [hs, hc]
      rfl
    · rename_i n hc
      refine ⟨[.say ⟨.info, loopMessage n⟩], (if body.isEmpty then [] else [.loop body n]) ++
        [.pause c.pacing.nanoseconds], ⟨Plays.emitted _, rfl, rfl, rfl, rfl, rfl⟩,
        by simp [Effect.isQuiet], ?_, ?_⟩
      · split <;> simp [Lined, Task.looks]
      · rw [hs, hc]
        split
        · rename_i he
          simp [Task.script, cuesOf, loopMessage, Chain.script_of_isEmpty he]
        · simp [Task.script, cuesOf, loopMessage]

/-- A task of a walk shows its script, and leaves to the tasks that it puts in front what it does
not show at once. -/
theorem Walked.perform (c : Controller) (call : Call) (task : Task) (h : call.stops c = false)
    (ht : task.looks = true ∨ task.acts = true) :
    ∃ now more, Walked call task (Call.perform c call task) now more := by
  -- a task that only looks puts in front what comes next
  have push (more : List Task) (hl : Lined more) (hs : more.flatMap Task.script = task.script) :
      Walked call task ([], call.push more) [] more :=
    ⟨⟨Plays.nil, rfl, rfl, rfl, rfl, rfl⟩, by simp, hl, hs⟩
  have done (hs : [] = task.script) : Walked call task ([], call) [] [] :=
    ⟨⟨Plays.nil, rfl, rfl, rfl, rfl, rfl⟩, by simp, trivial, hs⟩
  cases task with
  | pause n => exact ⟨[], [], done rfl⟩
  | send command =>
    obtain ⟨more, hw, _⟩ := Walked.send c call command
    exact ⟨_, more, hw⟩
  | head first => exact Walked.head c call first h
  | chain rest =>
    have hr := rest.script_withNext
    cases rest with
    | nil => exact ⟨[], [], done rfl⟩
    | block | loop =>
      simp only [Call.perform, h, Bool.false_eq_true, if_false]
      refine ⟨[], _, push _ (by simp [Lined, Task.looks, Task.acts]) ?_⟩
      simpa [Task.script] using hr
  | loop body left =>
    cases left with
    | zero => exact ⟨[], [], done rfl⟩
    | succ left =>
      simp only [Call.perform, h, Bool.false_eq_true, if_false]
      refine ⟨[], _, push _ (by simp [Lined, Task.looks]) ?_⟩
      simp [Task.script, turnCues_succ]
  | sequences rest =>
    cases rest with
    | nil => exact ⟨[], [], done rfl⟩
    | cons first rest =>
      simp only [Call.perform, h, Bool.false_eq_true, if_false]
      exact ⟨[], _, push _ (by simp [Lined, Task.looks]) (by simp [Task.script])⟩
  | emit | begin | conclude | finish | raise | probe | verdict => simp [Task.looks, Task.acts] at ht

/-- Who has to stop drops every task that looks at the ticket. -/
theorem Call.perform_of_stops (c : Controller) (call : Call) (task : Task) (h : call.stops c = true)
    (ht : task.looks = true) : Call.perform c call task = ([], call) := by
  cases task with
  | pause n => rfl
  | chain rest => cases rest <;> simp [Call.perform, h]
  | loop body left => cases left <;> simp [Call.perform, h]
  | sequences rest => cases rest <;> simp [Call.perform, h]
  | send | head | emit | begin | conclude | finish | raise | probe | verdict =>
    simp [Task.looks] at ht

end BlockPilot
