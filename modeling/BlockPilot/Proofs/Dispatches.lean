import BlockPilot.Proofs.Motion
import BlockPilot.Proofs.ScalarText

/-!
# Where commands come from

A command that is sent has a value only if it sets the speed, and never a value above `maxSpeed`. A
stop can come from any call. Every other command comes from a connection test or from a block of the
program that its call runs, which was begun just before (`Floor.Origin`), and whose field asks for the
command: a text that names the direction, or a whole number that is in range (`Block.Asks`). Whatever
other JSON value stands in a field, nothing is sent for it.

The program hands its blocks down to the tasks of its run (`Call.Draws`), and none of these tasks but
the first one is a command, so that a command in front was put there by the task before it
(`Call.sends_doNext`).
-/

namespace BlockPilot

/-! ## What a block asks for -/

/-- The command that the field of a block asks for. -/
inductive Block.Asks : Block → Command → Prop
  | move {text : String} {d : Direction} (named : Text.lowercase (Text.trim text) = d.name) :
      Asks (.move (some (.text text))) ⟨d.toAction, none⟩
  | stop : Asks .stop ⟨.stop, none⟩
  | speed {field : FieldValue} {x : Binary64} {n : Nat} (number : field.toNumber? = some x)
      (whole : x.toInt? = some (n : Int)) (fits : n ≤ maxSpeed) :
      Asks (.setSpeed (some field)) ⟨.speed, some n⟩

theorem Direction.ofText?_eq_some {text : String} {d : Direction}
    (h : Direction.ofText? text = some d) : Text.lowercase (Text.trim text) = d.name := by
  obtain ⟨⟨name, d'⟩, hfind, rfl⟩ := Option.map_eq_some_iff.1 h
  have hname : name = Text.lowercase (Text.trim text) := by simpa using List.find?_some hfind
  obtain ⟨d, -, hd⟩ := List.mem_map.1 (List.mem_of_find?_eq_some hfind)
  cases hd
  exact hname.symm

namespace Field

theorem direction_eq_ok {field : Option FieldValue} {d : Direction} (h : direction field = .ok d) :
    ∃ text, field = some (.text text) ∧ Text.lowercase (Text.trim text) = d.name := by
  cases field with
  | none => cases h
  | some value =>
    cases value with
    | number | other => cases h
    | text s =>
      simp only [direction, required] at h
      cases hd : Direction.ofText? s with
      | none => simp [hd, bind, Except.bind] at h
      | some d' =>
        obtain rfl : d' = d := by simpa [hd, bind, Except.bind] using h
        exact ⟨s, rfl, Direction.ofText?_eq_some hd⟩

/-- A value is finite only if it holds a number. -/
theorem finite_eq_ok {kind : BlockKind} {name : FieldName} {value : FieldValue} {x : Binary64}
    (h : finite kind name value = .ok x) : value.toNumber? = some x := by
  unfold finite at h
  split at h
  · split at h
    · cases h
      assumption
    · cases h
  · cases h

theorem whole_eq_ok {kind : BlockKind} {name : FieldName} {value : FieldValue} {n : Int} {x : Binary64}
    (h : whole kind name value = .ok (n, x)) : value.toNumber? = some x ∧ x.toInt? = some n := by
  obtain ⟨y, hy, h⟩ := Json.bind_eq_ok.1 h
  split at h
  · rename_i m hm
    cases h
    exact ⟨finite_eq_ok hy, hm⟩
  · cases h

theorem speed_eq_ok {field : Option FieldValue} {n : Nat} (h : speed field = .ok n) :
    ∃ value x, field = some value ∧ value.toNumber? = some x ∧ x.toInt? = some (n : Int) ∧
      n ≤ maxSpeed := by
  cases field with
  | none => cases h
  | some value =>
    obtain ⟨_, hvalue, h⟩ := Json.bind_eq_ok.1 h
    cases hvalue
    obtain ⟨⟨m, x⟩, hx, h⟩ := Json.bind_eq_ok.1 h
    obtain ⟨hnumber, hint⟩ := whole_eq_ok hx
    simp only at h
    split at h
    · cases h
    · rename_i hrange
      cases h
      have hm : ((m.toNat : Nat) : Int) = m := Int.toNat_of_nonneg (by omega)
      exact ⟨value, x, rfl, hnumber, by rw [hm]; exact hint, by omega⟩

end Field

/-- A block that is run sends a command only if its field asks for it. -/
theorem Block.asks_of_meaning {b : Block} {message : String} {command : Command}
    (h : b.meaning = .ok (message, .send command)) : b.Asks command := by
  cases b with
  | move field =>
    obtain ⟨d, hd, h⟩ := Json.bind_eq_ok.1 h
    cases h
    obtain ⟨text, rfl, hname⟩ := Field.direction_eq_ok hd
    exact .move hname
  | stop =>
    cases h
    exact .stop
  | setSpeed field =>
    obtain ⟨n, hn, h⟩ := Json.bind_eq_ok.1 h
    cases h
    obtain ⟨value, x, rfl, hnumber, hint, hle⟩ := Field.speed_eq_ok hn
    exact .speed hnumber hint hle
  | wait field =>
    obtain ⟨n, -, h⟩ := Json.bind_eq_ok.1 h
    cases h
  | print field =>
    obtain ⟨m, -, h⟩ := Json.bind_eq_ok.1 h
    cases h
  | unsupported => cases h

/-- Driving in a direction is asked for by the name of the direction. -/
theorem Block.Asks.direction {b : Block} {command : Command} (h : b.Asks command) {d : Direction}
    (hd : command.action = d.toAction) :
    ∃ text, b = .move (some (.text text)) ∧ Text.lowercase (Text.trim text) = d.name := by
  cases h with
  | @move text d' named =>
    obtain rfl : d' = d := by cases d' <;> cases d <;> first | rfl | cases hd
    exact ⟨text, rfl, named⟩
  | stop | speed => cases d <;> cases hd

/-! ## The blocks of a run -/

/-- The blocks of a chain that are no loops, bodies included. -/
def Chain.blocks : Chain → List Block
  | .nil => []
  | .block b next => b :: next.blocks
  | .loop _ _ body next => body.blocks ++ next.blocks

def Program.blocks (p : Program) : List Block := p.sequences.flatMap Chain.blocks

/-- The blocks that a task can come to. -/
def Task.blocks : Task → List Block
  | .head c | .chain c | .loop c _ => c.blocks
  | .sequences rest => rest.flatMap Chain.blocks
  | .begin p => p.blocks
  | _ => []

theorem Chain.blocks_next_subset (c : Chain) : c.next.blocks ⊆ c.blocks := by
  cases c with
  | nil => exact List.Subset.refl _
  | block b next => exact List.subset_cons_self b next.blocks
  | loop kind times body next => exact List.subset_append_right body.blocks next.blocks

theorem Deed.blocks_tasks (d : Deed) : ∀ t ∈ Call.deedTasks d, t.blocks = [] := by
  cases d <;> simp [Call.deedTasks, Task.blocks]

namespace Call

/-- A task puts no blocks in front but its own. -/
theorem perform_blocks (c : Controller) (call : Call) (task : Task) :
    ∀ t ∈ (perform c call task).2.tasks, t ∈ call.tasks ∨ t.blocks ⊆ task.blocks := by
  have same : ∀ t ∈ call.tasks, t ∈ call.tasks ∨ t.blocks ⊆ task.blocks := fun t ht => Or.inl ht
  have pushed {more : List Task} (h : ∀ t ∈ more, t.blocks ⊆ task.blocks) :
      ∀ t ∈ (call.push more).tasks, t ∈ call.tasks ∨ t.blocks ⊆ task.blocks := fun t ht =>
    (List.mem_append.1 ht).elim (fun hm => Or.inr (h t hm)) Or.inl
  -- most of what is put in front has no blocks at all
  have bare {more : List Task} (h : ∀ t ∈ more, t.blocks = []) :
      ∀ t ∈ (call.push more).tasks, t ∈ call.tasks ∨ t.blocks ⊆ task.blocks :=
    pushed fun t ht => by simp [h t ht]
  cases task with
  | pause | emit | finish | raise | verdict => exact same
  | send command =>
    simp only [perform, doSend]
    split
    · exact bare (by simp [Task.blocks])
    · exact same
  | head first =>
    cases first with
    | nil => exact same
    | block b next =>
      simp only [perform, doHead]
      split
      · exact same
      · split
        · exact same
        · rename_i deed _
          refine bare fun t ht => ?_
          rcases List.mem_append.1 ht with ht | ht
          · exact deed.blocks_tasks t ht
          · rw [List.mem_singleton.1 ht]
            rfl
    | loop kind times body next =>
      simp only [perform, doHead]
      split
      · exact same
      · split
        · exact same
        · have hbody : body.blocks ⊆ (Task.head (.loop kind times body next)).blocks :=
            List.subset_append_left body.blocks next.blocks
          refine pushed fun t ht => ?_
          rcases List.mem_append.1 ht with ht | ht
          · split at ht
            · simp at ht
            · rw [List.mem_singleton.1 ht]
              exact hbody
          · rw [List.mem_singleton.1 ht]
            exact List.nil_subset _
  | chain rest =>
    cases rest with
    | nil => exact same
    | block | loop =>
      simp only [perform]
      split
      · exact same
      · refine pushed (List.forall_mem_cons.2 ⟨List.Subset.refl _, List.forall_mem_singleton.2 ?_⟩)
        exact Chain.blocks_next_subset _
  | loop body left =>
    cases left with
    | zero => exact same
    | succ left =>
      simp only [perform]
      split
      · exact same
      · exact pushed (by simp [Task.blocks])
  | sequences rest =>
    cases rest with
    | nil => exact same
    | cons first rest =>
      simp only [perform]
      split
      · exact same
      · exact pushed (by simp [Task.blocks])
  | begin p =>
    simp only [perform, doBegin]
    split
    · exact same
    · exact pushed (by simp [Task.blocks, Program.blocks])
  | conclude =>
    simp only [perform]
    split <;> exact bare (by simp [Task.blocks])
  | probe =>
    simp only [perform, doProbe]
    split
    · exact same
    · exact bare (by simp [Task.blocks])

/-- The tasks of a call come to blocks of one program only. -/
def Draws (p : Program) (call : Call) : Prop :=
  ∀ t ∈ call.tasks, t.blocks ⊆ p.blocks

variable {p : Program} {c : Controller} {call : Call}

theorem draws_run (p : Program) : (Call.run p).Draws p := by
  simp [Draws, run, ofTasks, Task.blocks]

theorem Draws.doNext (h : call.Draws p) : (call.doNext c).2.Draws p := by
  cases ht : call.tasks with
  | nil => rwa [doNext_nil ht]
  | cons task rest =>
    rw [doNext_cons ht]
    intro t hmem
    rcases perform_blocks c { call with tasks := rest } task t hmem with hrest | hsub
    · exact h t (by rw [ht]; exact List.mem_cons_of_mem _ hrest)
    · exact List.Subset.trans hsub (h task (by simp [ht]))

end Call

/-- Behind the first task of a run no task acts by itself. -/
theorem RunStage.behind {p : Program} {told : Bool} {call : Call} (h : RunStage p told call)
    {task : Task} {rest : List Task} (ht : call.tasks = task :: rest) : ∀ t ∈ rest, t.acts = false := by
  have looking {t : Task} (hl : t.looks = true) : t.acts = false := by
    cases t <;> first | rfl | cases hl
  cases h with
  | asked at_ | halting _ _ _ at_ | closing _ _ at_ =>
    rw [at_.tasks, List.cons.injEq] at ht
    rw [← ht.2]
    simp [Task.acts]
  | walking k w nodes at_ lined =>
    have hw := at_.tasks.symm.trans ht
    cases w with
    | nil =>
      obtain ⟨-, rfl⟩ : Task.conclude = task ∧ [] = rest := by simpa using hw
      simp
    | cons first w =>
      obtain ⟨-, rfl⟩ : first = task ∧ w ++ [.conclude] = rest := by simpa using hw
      intro t hmem
      rcases List.mem_append.1 hmem with hmem | hmem
      · exact looking (lined.2 t hmem)
      · rw [List.mem_singleton.1 hmem]
        rfl
  | settled k pauses at_ pause =>
    have hall : ∀ t ∈ pauses ++ [Task.finish .completed], t.acts = false := by
      intro t hmem
      rcases List.mem_append.1 hmem with hmem | hmem
      · obtain ⟨n, rfl⟩ := pause t hmem
        rfl
      · rw [List.mem_singleton.1 hmem]
        rfl
    rw [at_.tasks] at ht
    exact fun t hmem => hall t (by rw [ht]; exact List.mem_cons_of_mem _ hmem)
  | refused at_ | stopped _ at_ | completed at_ | dropped _ at_ => simp [at_.tasks] at ht

/-- A command comes to the front of a run when the run is complete, or as what a block means that the
run has just begun. -/
theorem RunStage.sends_doNext {p : Program} {told : Bool} {c : Controller} {call : Call}
    (h : RunStage p told call) {command : Command} {more : List Task}
    (hs : (call.doNext c).2.tasks = .send command :: more) :
    command = ⟨.stop, none⟩ ∨ ∃ b next rest message, call.tasks = .head (.block b next) :: rest ∧
      b.meaning = .ok (message, .send command) := by
  cases ht : call.tasks with
  | nil =>
    rw [Call.doNext_nil ht, ht] at hs
    cases hs
  | cons task rest =>
    have hbehind := h.behind ht
    have hfront := h.front ht
    rw [Call.doNext_cons ht] at hs
    -- the tasks behind the front begin with no command, so that one in front was put there
    have kept (hr : rest = .send command :: more) : False := by
      have := hbehind (.send command) (by simp [hr])
      cases this
    cases task with
    | pause => exact (kept hs).elim
    | emit | raise | probe | verdict => simp [Task.looks, Task.acts] at hfront
    | finish => exact (kept hs).elim
    | send other =>
      simp only [Call.perform, Call.doSend] at hs
      split at hs
      · cases hs
      · exact (kept hs).elim
    | head first =>
      cases first with
      | nil => exact (kept hs).elim
      | block b next =>
        simp only [Call.perform, Call.doHead] at hs
        split at hs
        · exact (kept hs).elim
        · split at hs
          · exact (kept hs).elim
          · rename_i message deed hmeaning
            cases deed with
            | nothing | wait => cases hs
            | send other =>
              cases hs
              exact Or.inr ⟨b, next, rest, message, rfl, hmeaning⟩
      | loop kind times body next =>
        simp only [Call.perform, Call.doHead] at hs
        split at hs
        · exact (kept hs).elim
        · split at hs
          · exact (kept hs).elim
          · cases hempty : body.isEmpty <;> simp [hempty, Call.push, Call.traced] at hs
    | chain first =>
      cases first with
      | nil => exact (kept hs).elim
      | block | loop =>
        simp only [Call.perform] at hs
        split at hs
        · exact (kept hs).elim
        · cases hs
    | loop body left =>
      cases left with
      | zero => exact (kept hs).elim
      | succ left =>
        simp only [Call.perform] at hs
        split at hs
        · exact (kept hs).elim
        · cases hs
    | sequences sequences =>
      cases sequences with
      | nil => exact (kept hs).elim
      | cons first sequences =>
        simp only [Call.perform] at hs
        split at hs
        · exact (kept hs).elim
        · cases hs
    | begin q =>
      simp only [Call.perform, Call.doBegin] at hs
      split at hs
      · exact (kept hs).elim
      · cases hs
    | conclude =>
      simp only [Call.perform] at hs
      split at hs
      · cases hs
      · cases hs
        exact Or.inl rfl

/-! ## Where a command comes from -/

namespace Floor

variable {f : Floor}

/-- A run of a program that has the floor is going to begin a block. -/
def Begins (f : Floor) (n : Nat) (p : Program) (b : Block) : Prop :=
  f.holder = some n ∧ ∃ call next rest, f.callers[n]? = some ⟨.run p, call⟩ ∧
    call.tasks = .head (.block b next) :: rest

/-- A run has begun a block, and no call has done a task since. -/
def Begun (f : Floor) (before : List Turn) (n : Nat) (p : Program) (b : Block) : Prop :=
  ∃ early late, before = early ++ .work :: late ∧ (f.run early).Begins n p b ∧
    ∀ turn ∈ late, turn ≠ .work

/-- What a command comes from that a call sends behind some turns: any call can stop the robot, a
connection test drives forward and back, and a run sends what a block of its program asks for. -/
inductive Origin (f : Floor) (before : List Turn) (n : Nat) : Request → Command → Prop
  | stop {request : Request} : Origin f before n request ⟨.stop, none⟩
  | forward : Origin f before n .testConnection ⟨.forward, none⟩
  | backward : Origin f before n .testConnection ⟨.backward, none⟩
  | block {p : Program} {b : Block} {command : Command} (mem : b ∈ p.blocks) (asks : b.Asks command)
      (begun : f.Begun before n p b) : Origin f before n (.run p) command

namespace Origin

variable {before : List Turn} {n : Nat} {request : Request} {command : Command}

/-- Turns in which no task is done change nothing about where a command comes from. -/
theorem later (h : f.Origin before n request command) {turn : Turn} (hw : turn ≠ .work) :
    f.Origin (before ++ [turn]) n request command := by
  cases h with
  | stop => exact .stop
  | forward => exact .forward
  | backward => exact .backward
  | block mem asks begun =>
    obtain ⟨early, late, rfl, hb, hl⟩ := begun
    refine .block mem asks ⟨early, late ++ [turn], by simp, hb, fun t ht => ?_⟩
    rcases List.mem_append.1 ht with ht | ht
    · exact hl t ht
    · rwa [List.mem_singleton.1 ht]

/-- Only a command that sets the speed has a value, and the value is in range. -/
theorem value (h : f.Origin before n request command) :
    (command.value.isSome ↔ command.action = .speed) ∧ ∀ v ∈ command.value, v ≤ maxSpeed := by
  cases h with
  | stop | forward | backward => simp
  | block mem asks begun =>
    cases asks with
    | @move text d => cases d <;> simp [Direction.toAction]
    | stop => simp
    | speed number whole fits => simpa using fits

/-- A command to drive is a test's, or the run of a program has just begun a block with the name of the
direction. -/
theorem direction (h : f.Origin before n request command) (hr : request ≠ .testConnection)
    {d : Direction} (hd : command.action = d.toAction) :
    ∃ p text, request = .run p ∧ .move (some (.text text)) ∈ p.blocks ∧
      Text.lowercase (Text.trim text) = d.name ∧ f.Begun before n p (.move (some (.text text))) := by
  cases h with
  | stop => cases d <;> cases hd
  | forward | backward => exact absurd rfl hr
  | @block p b _ mem asks begun =>
    obtain ⟨text, rfl, hname⟩ := asks.direction hd
    exact ⟨p, text, rfl, mem, hname, begun⟩

end Origin

/-- What the run of a program has in front of it, and what it can come to. -/
structure Sourced (f : Floor) (before : List Turn) (n : Nat) (p : Program) (call : Call) : Prop where
  draws : call.Draws p
  front : ∀ command rest, call.tasks = .send command :: rest → f.Origin before n (.run p) command

/-- A call with a command in front has the floor, and does the next task that is done. -/
theorem works_of_send (h : f.Sound) {n : Nat} {caller : Caller} (hi : f.callers[n]? = some caller)
    {command : Command} {rest : List Task} (ht : caller.call.tasks = .send command :: rest) :
    (f.step .work).callers[n]? = some { caller with call := (caller.call.doNext f.controller).2 } := by
  have hh : f.holder = some n := by
    by_contra hne
    have := h.rests n caller hi hne
    simp [Call.isResting, Call.isAsleep, ht] at this
  rw [step_work hh hi, put_here hi]

namespace Sourced

variable {before : List Turn} {turn : Turn} {n : Nat} {p : Program} {call : Call}

/-- The task that a run does next puts a command in front only for the block that it begins. -/
theorem doNext (h : f.Sourced before n p call) (hsound : (f.run before).Sound)
    (hi : (f.run before).callers[n]? = some ⟨.run p, call⟩)
    (floor : turn = .work ∧ (f.run before).holder = some n ∨ call.isAsleep = true) :
    f.Sourced (before ++ [turn]) n p (call.doNext (f.run before).controller).2 := by
  refine ⟨h.draws.doNext, fun command rest ht => ?_⟩
  have hstage : RunStage p (call.stops (f.run before).controller) call := hsound.stage n _ hi
  rcases hstage.sends_doNext ht with rfl | ⟨b, next, more, message, hb, hmeaning⟩
  · exact .stop
  · have hmem : b ∈ p.blocks := h.draws (.head (.block b next)) (by simp [hb])
      (by simp [Task.blocks, Chain.blocks])
    rcases floor with ⟨rfl, hh⟩ | hasleep
    · exact .block hmem (Block.asks_of_meaning hmeaning)
        ⟨before, [], rfl, ⟨hh, call, next, more, hi, hb⟩, by simp⟩
    · simp [Call.isAsleep, hb] at hasleep

/-- A turn that leaves a run as it is does no task while a command is in front of the run. -/
theorem same (h : f.Sourced before n p call) (hsound : (f.run before).Sound)
    (hi : (f.run before).callers[n]? = some ⟨.run p, call⟩)
    (hnew : ((f.run before).step turn).callers[n]? = some ⟨.run p, call⟩) :
    f.Sourced (before ++ [turn]) n p call := by
  refine ⟨h.draws, fun command rest ht => ?_⟩
  by_cases hw : turn = .work
  · -- a task that is done does not leave its call as it was
    subst hw
    have hlt := Call.weight_doNext_lt (c := (f.run before).controller) ht
    have hsame : call = (call.doNext (f.run before).controller).2 := by
      simpa using hnew.symm.trans (works_of_send hsound hi ht)
    rw [← hsame] at hlt
    exact absurd hlt (Nat.lt_irrefl _)
  · exact (h.front command rest ht).later hw

end Sourced

/-- Every run has its commands from the blocks of its program. The induction is on the turns from
behind: a command in front was put there by the last task that was done. -/
theorem sourced (h : f.Sound) (hn : f.callers = []) (before : List Turn) {n : Nat} {p : Program}
    {call : Call} (hi : (f.run before).callers[n]? = some ⟨.run p, call⟩) : f.Sourced before n p call := by
  induction before using List.reverseRecOn generalizing call with
  | nil => simp [hn] at hi
  | append_singleton before turn ih =>
    have hsound := sound_run h before
    rw [run_append, run_cons, run_nil] at hi
    rcases step_caller hi with hnew | ⟨⟨request, old⟩, hold, hr, hcall⟩
    · obtain rfl : call = Call.run p := by simpa [Request.call] using hnew
      exact ⟨Call.draws_run p, fun command rest ht => by simp [Call.run, Call.ofTasks] at ht⟩
    · obtain rfl : request = .run p := hr
      rcases hcall with hcall | ⟨r, hmove, -, hcall, floor⟩
      · obtain rfl : call = old := hcall
        exact (ih hold).same hsound hold hi
      · obtain rfl : call = r.2 := hcall
        cases hmove with
        | drop => exact ⟨by simp [Call.Draws, Call.dropped], by simp [Call.dropped]⟩
        | next => exact (ih hold).doNext hsound hold floor

/-- Every command that a call sends comes from somewhere. -/
theorem origin_of_deeds (h : f.Sound) (hf : f.Confined) (hn : f.callers = []) (before : List Turn) {n : Nat}
    {d : Dispatch} (hd : (n, .sent d) ∈ (f.run before).deeds .work) :
    ∃ caller, (f.run before).callers[n]? = some caller ∧ f.Origin before n caller.request d.command := by
  rcases deeds_cases (f.run before) .work with ⟨-, i, ⟨request, call⟩, -, hc, -, hdeeds⟩ | ⟨hdeeds, -⟩
  · rw [hdeeds] at hd
    obtain ⟨e, he, heq⟩ := List.mem_map.1 hd
    cases heq
    refine ⟨_, hc, ?_⟩
    obtain ⟨rest, hfront⟩ := Call.front_of_sent he
    have hconfined := confined_run hf before _ _ hc
    cases request with
    | run p => exact (sourced h hn before hc).front d.command rest hfront
    | stop | emergencyStop =>
      have hstop : d.command = ⟨.stop, none⟩ := by
        simpa [Command.isStop] using (hconfined.of_isStop rfl).sent he
      rw [hstop]
      exact .stop
    | testConnection =>
      rcases hconfined with hp | ⟨rest', hf, -⟩ | hk
      · exact absurd (hfront.symm.trans hp) (by simp)
      · have hforward : d.command = ⟨.forward, none⟩ := by
          simpa using (List.cons.inj (hfront.symm.trans hf)).1
        rw [hforward]
        exact .forward
      · have hback : d.command = ⟨.backward, none⟩ ∨ d.command = ⟨.stop, none⟩ := by
          simpa [Command.isReturn] using hk.sent he
        rcases hback with hback | hback
        · rw [hback]
          exact .backward
        · rw [hback]
          exact .stop
  · rw [hdeeds] at hd
    cases hd

/-- **Dispatches.** Take any calls of a controller over a recorder, runs of any programs among them, and
let them take turns in any order, with fewer than `2 ^ 64` runs (`Floor.tickets_fit`). What is recorded
is what the calls send. A command that is recorded has a value exactly if it sets the speed, and the
value is not above `maxSpeed`. Whenever a call sends a command, that comes from the call itself or from
a block of its program; and if it drives in a direction and is not sent by a connection test, its call
runs a program and has just begun a block of it whose text, without the white space around it and in
lower case, is the name of the direction. -/
theorem dispatches_come_from_blocks (r : Recorder) (log : EventLog) (pacing : Duration) (turns : List Turn) :
    let f := Floor.new (.new (.recorder r) log pacing)
    let sent := (f.story turns).filterMap (·.2.dispatch?)
    (f.run turns).controller.channel.records = sent.reverse ++ r.records ∧
    (∀ d ∈ sent, (d.command.value.isSome ↔ d.command.action = .speed) ∧
      ∀ v ∈ d.command.value, v ≤ maxSpeed) ∧
    ∀ before after n d, turns = before ++ .work :: after → (n, .sent d) ∈ (f.run before).deeds .work →
      ∃ caller, (f.run before).callers[n]? = some caller ∧
        f.Origin before n caller.request d.command ∧
        (caller.request ≠ .testConnection → ∀ direction : Direction,
          d.command.action = direction.toAction →
          ∃ p text, caller.request = .run p ∧ .move (some (.text text)) ∈ p.blocks ∧
            Text.lowercase (Text.trim text) = direction.name ∧
            f.Begun before n p (.move (some (.text text)))) := by
  intro f sent
  have hsound : f.Sound := sound_new (.recorder r) log pacing
  have hf : f.Confined := confined_new _
  refine ⟨records_run rfl turns, fun d hd => ?_, fun before after n d _ hd => ?_⟩
  · obtain ⟨⟨n, e⟩, hmem, he⟩ := List.mem_filterMap.1 hd
    obtain rfl : e = .sent d := Effect.dispatch?_eq_some.1 he
    obtain ⟨before, after, caller, rfl, hh, hc, heff⟩ := mem_story hmem
    have hdeeds : (n, .sent d) ∈ (f.run before).deeds .work := by
      simpa [deeds, hh, hc] using heff
    obtain ⟨_, -, horigin⟩ := origin_of_deeds hsound hf rfl before hdeeds
    exact horigin.value
  · obtain ⟨caller, hc, horigin⟩ := origin_of_deeds hsound hf rfl before hd
    exact ⟨caller, hc, horigin, fun hr direction hdir => horigin.direction hr hdir⟩

end Floor

end BlockPilot
