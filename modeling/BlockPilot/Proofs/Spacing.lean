import BlockPilot.Proofs.Motion
import BlockPilot.Proofs.Unwinding

/-!
# Commands of a run keep their distance

On the floor the clock is moved by turns of its own, so that a pause lasts as long as it says has to be
said of the turns: they are *timely* if no call is done with a task before its time has passed
(`Floor.Timely`). When each call came to the task in front of it is kept beside the floor.

Between two commands a run settles and paces, whatever it meets there. `Spaced` says so of the tasks
that a run has left, together with the time that it owes before its next command, and every task keeps
that (`Spaced.doNext`). So two commands that a run sends one after the other are at least a settling and
a pacing apart (`Floor.commands_spaced`).
-/

namespace BlockPilot

/-! ## Turns that take their time -/

/-- How long a task takes at least, in nanoseconds. -/
def Task.span : Task → Nat
  | .pause nanoseconds => nanoseconds
  | _ => 0

namespace Floor

/-- A turn is in time if the call that does a task came to it at least the span of the task ago. The call
with the number `i` came to its task when the clock had been going for `since i` nanoseconds. -/
def InTime (f : Floor) (since : Nat → Nat) (turn : Turn) : Prop :=
  ∀ i < f.callers.length, ∀ task ∈ f.chore i turn,
    since i + task.span ≤ f.controller.clock.nanoseconds

instance (f : Floor) (since : Nat → Nat) (turn : Turn) : Decidable (f.InTime since turn) :=
  inferInstanceAs (Decidable (∀ i < f.callers.length, ∀ task ∈ f.chore i turn,
    since i + task.span ≤ f.controller.clock.nanoseconds))

/-- When the calls came to their tasks, after a turn: a call that does a task comes to the next one now. -/
def arrivals (f : Floor) (since : Nat → Nat) (turn : Turn) (i : Nat) : Nat :=
  if (f.chore i turn).isEmpty then since i else f.controller.clock.nanoseconds

/-- All turns are in time. This is so on a clock that does not go back, if every pause lasts at least as
long as it says. A call begins with no pause, so it does not matter when it came to its first task. -/
def Timely (f : Floor) (since : Nat → Nat) : List Turn → Prop
  | [] => True
  | turn :: turns => f.InTime since turn ∧ (f.step turn).Timely (f.arrivals since turn) turns

instance decidableTimely : ∀ (f : Floor) (since : Nat → Nat) (turns : List Turn),
    Decidable (f.Timely since turns)
  | _, _, [] => isTrue trivial
  | f, since, turn :: turns =>
    have := decidableTimely (f.step turn) (f.arrivals since turn) turns
    inferInstanceAs (Decidable (f.InTime since turn ∧ (f.step turn).Timely (f.arrivals since turn) turns))

/-- The commands that the call with a number sends at some turns, in order. -/
def sentBy (f : Floor) (i : Nat) (turns : List Turn) : List Dispatch :=
  ((f.story turns).filter (·.1 == i)).filterMap (·.2.dispatch?)

end Floor

/-! ## The tasks of a run -/

namespace Call

variable {c : Controller} {call : Call} {task : Task} {rest : List Task}

/-- No other task sends a command than the one that says so. -/
theorem no_dispatch (ht : call.tasks = task :: rest)
    (hs : ∀ command, task ≠ .send command) : (call.effects c).filterMap Effect.dispatch? = [] := by
  rw [List.filterMap_eq_nil_iff]
  intro e he
  cases hd : e.dispatch? with
  | none => rfl
  | some d =>
    obtain rfl := Effect.dispatch?_eq_some.1 hd
    obtain ⟨rest', hsend⟩ := front_of_sent he
    exact absurd (List.cons.inj (ht.symm.trans hsend)).1 (hs _)

end Call

/-- Whether a task of a run is nothing but its parts. -/
def Task.isComposite : Task → Bool
  | .head _ | .chain _ | .loop .. | .sequences _ => true
  | _ => false

/-- The tasks of a run send no command before `owed` nanoseconds of pauses, and after each command none
before another `pacing` nanoseconds. -/
inductive Spaced (pacing : Nat) : Nat → List Task → Prop
  | done {owed : Nat} : Spaced pacing owed []
  | pause {owed n : Nat} {rest : List Task} (h : Spaced pacing (owed - n) rest) :
      Spaced pacing owed (.pause n :: rest)
  | send {command : Command} {rest : List Task} (h : Spaced pacing pacing rest) :
      Spaced pacing 0 (.send command :: rest)
  | composite {task : Task} {rest : List Task} (ht : task.isComposite = true)
      (h : Spaced pacing 0 rest) : Spaced pacing 0 (task :: rest)
  | begin {p : Program} : Spaced pacing 0 [.begin p]
  | conclude : Spaced pacing 0 [.conclude]
  | finish {owed : Nat} {outcome : Outcome} : Spaced pacing owed [.finish outcome]

namespace Spaced

variable {pacing owed less n : Nat} {tasks rest : List Task} {task : Task} {c : Controller} {call : Call}

/-- Who owes less keeps what he owes. -/
theorem mono (h : Spaced pacing owed tasks) (hle : less ≤ owed) : Spaced pacing less tasks := by
  induction h generalizing less with
  | done => exact .done
  | pause _ ih => exact .pause (ih (by omega))
  | send h =>
    obtain rfl : less = 0 := by omega
    exact .send h
  | composite ht h =>
    obtain rfl : less = 0 := by omega
    exact .composite ht h
  | begin =>
    obtain rfl : less = 0 := by omega
    exact .begin
  | conclude =>
    obtain rfl : less = 0 := by omega
    exact .conclude
  | finish => exact .finish

/-- A pause that is long enough pays all. -/
theorem of_pause (h : Spaced pacing 0 rest) (hle : owed ≤ n) : Spaced pacing owed (.pause n :: rest) :=
  .pause (h.mono (by omega))

/-- A block that is run keeps the distance by its own pacing. -/
theorem head (h : Spaced c.pacing.nanoseconds 0 call.tasks) (first : Chain) :
    Spaced c.pacing.nanoseconds 0 (Call.doHead c call first).2.tasks := by
  have paced : Spaced c.pacing.nanoseconds c.pacing.nanoseconds
      (.pause c.pacing.nanoseconds :: call.tasks) := h.of_pause (Nat.le_refl _)
  cases first with
  | nil => exact h
  | block b next =>
    simp only [Call.doHead]
    split
    · exact h
    · split
      · exact h
      · rename_i deed _
        cases deed with
        | nothing => exact paced.mono (Nat.zero_le _)
        | send command => exact .send paced
        | wait n => exact (paced.mono (Nat.zero_le _)).of_pause (Nat.zero_le _)
  | loop kind times body next =>
    simp only [Call.doHead]
    split
    · exact h
    · split
      · exact h
      · cases body.isEmpty with
        | true => exact paced.mono (Nat.zero_le _)
        | false => exact .composite rfl (paced.mono (Nat.zero_le _))

/-- The parts of a task keep the distance. -/
theorem parts (h : Spaced c.pacing.nanoseconds 0 call.tasks) (ht : task.isComposite = true) :
    Spaced c.pacing.nanoseconds 0 (Call.perform c call task).2.tasks := by
  cases task with
  | head first => exact h.head first
  | chain blocks =>
    cases blocks with
    | nil => exact h
    | block | loop =>
      simp only [Call.perform]
      split
      · exact h
      · exact .composite rfl (.composite rfl h)
  | loop body left =>
    cases left with
    | zero => exact h
    | succ left =>
      simp only [Call.perform]
      split
      · exact h
      · exact .composite rfl (.composite rfl h)
  | sequences chains =>
    cases chains with
    | nil => exact h
    | cons first chains =>
      simp only [Call.perform]
      split
      · exact h
      · exact .composite rfl (.composite rfl h)
  | pause | emit | send | begin | conclude | finish | raise | probe | verdict => cases ht

/-- **One task.** It sends nothing and its span is paid off, or it sends a command now, owing nothing, and
then owes the settling and the pacing. -/
theorem doNext (h : Spaced c.pacing.nanoseconds owed call.tasks) (ht : call.tasks = task :: rest) :
    ((call.effects c).filterMap Effect.dispatch? = [] ∧
      Spaced c.pacing.nanoseconds (owed - task.span) (call.doNext c).2.tasks) ∨
    ∃ d, (call.effects c).filterMap Effect.dispatch? = [d] ∧ d.moment = c.clock ∧ owed = 0 ∧
      Spaced c.pacing.nanoseconds (c.channel.settle + c.pacing).nanoseconds
        (call.doNext c).2.tasks := by
  have hnext : (call.doNext c).2.tasks = (Call.perform c { call with tasks := rest } task).2.tasks := by
    rw [Call.doNext_cons ht]
    rfl
  rw [ht] at h
  rw [hnext]
  cases h with
  | send h =>
    rename_i command
    rw [Call.effects_cons ht]
    simp only [Call.perform, Call.doSend]
    split
    · refine Or.inr ⟨⟨command, c.clock⟩, rfl, rfl, trivial, .pause (h.mono ?_)⟩
      rw [Duration.nanoseconds_add]
      omega
    · exact Or.inl ⟨rfl, h.mono (Nat.zero_le _)⟩
  | pause h => exact Or.inl ⟨Call.no_dispatch ht (by simp), h⟩
  | composite hc h =>
    have hs : ∀ command, task ≠ .send command := by
      rintro command rfl
      cases hc
    exact Or.inl ⟨Call.no_dispatch ht hs, (h.parts hc).mono (by omega)⟩
  | begin =>
    refine Or.inl ⟨Call.no_dispatch ht (by simp), ?_⟩
    simp only [Call.perform, Call.doBegin]
    split
    · exact .done
    · exact .composite rfl .conclude
  | conclude =>
    refine Or.inl ⟨Call.no_dispatch ht (by simp), ?_⟩
    simp only [Call.perform]
    split
    · exact .finish
    · exact .send .finish
  | finish => exact Or.inl ⟨Call.no_dispatch ht (by simp), .done⟩

end Spaced

/-! ## Turns of a run -/

namespace Floor

theorem sentBy_cons (f : Floor) (i : Nat) (turn : Turn) (turns : List Turn) :
    f.sentBy i (turn :: turns) = f.sentBy i [turn] ++ (f.step turn).sentBy i turns := by
  simp [sentBy, story]

/-- What a call sends at some turns is what it says that it did at them. -/
theorem sentBy_eq {f : Floor} {i : Nat} {turns : List Turn} {effects : List Effect}
    (h : (f.run turns).told i = f.told i ++ effects) :
    f.sentBy i turns = effects.filterMap Effect.dispatch? := by
  have htold := told_run f turns i
  rw [h, List.append_cancel_left_eq] at htold
  rw [htold, List.filterMap_map]
  rfl

theorem sentBy_eq_nil {f : Floor} {i : Nat} {turns : List Turn} (h : (f.run turns).told i = f.told i) :
    f.sentBy i turns = [] := by
  have hnone : (f.run turns).told i = f.told i ++ [] := by rw [h, List.append_nil]
  exact sentBy_eq hnone

end Floor

/-- A call keeps a distance of `gap` to the last command that it sent, if it has sent one: it
owes what is missing to that since it came to its task at the time `since`. -/
def Call.Distant (gap pacing : Duration) (since : Nat) (last : Option Dispatch) (call : Call) : Prop :=
  ∃ owed, Spaced pacing.nanoseconds owed call.tasks ∧
    ∀ d ∈ last, (d.moment + gap).nanoseconds ≤ since + owed

/-- A call keeps its distance where it does a task in time. -/
theorem Call.Distant.doNext {c : Controller} {call : Call} {task : Task} {rest : List Task} {since : Nat}
    {last : Option Dispatch} (h : call.Distant (c.channel.settle + c.pacing) c.pacing since last)
    (ht : call.tasks = task :: rest) (hin : since + task.span ≤ c.clock.nanoseconds) :
    ((call.effects c).filterMap Effect.dispatch? = [] ∧
      (call.doNext c).2.Distant (c.channel.settle + c.pacing) c.pacing c.clock.nanoseconds last) ∨
    ∃ d, (call.effects c).filterMap Effect.dispatch? = [d] ∧
      (∀ e ∈ last, e.moment + (c.channel.settle + c.pacing) ≤ d.moment) ∧
      (call.doNext c).2.Distant (c.channel.settle + c.pacing) c.pacing c.clock.nanoseconds (some d) := by
  obtain ⟨owed, spaced, paid⟩ := h
  rcases spaced.doNext ht with ⟨hnone, hspaced⟩ | ⟨d, hsent, htime, rfl, hspaced⟩
  · refine Or.inl ⟨hnone, _, hspaced, fun d hd => ?_⟩
    have := paid d hd
    omega
  · refine Or.inr ⟨d, hsent, fun e he => ?_, _, hspaced, fun e he => ?_⟩
    · have := paid e he
      rw [Duration.le_iff, htime]
      omega
    · obtain rfl : d = e := by simpa using he
      exact Nat.le_of_eq (by rw [Duration.nanoseconds_add, htime])

namespace Floor

/-- The distance that runs keep. -/
def gap (f : Floor) : Duration := f.controller.channel.settle + f.controller.pacing

/-- The call with a number keeps its distance to the last command that it sent. -/
structure Keeps (f : Floor) (since : Nat → Nat) (i : Nat) (last : Option Dispatch) : Prop where
  distant : ∀ caller, f.callers[i]? = some caller →
    caller.call.Distant f.gap f.controller.pacing (since i) last
  fresh : f.callers[i]? = none → last = none

theorem gap_step (f : Floor) (turn : Turn) : (f.step turn).gap = f.gap := by
  simp only [gap, Controller.fixed_settle.step f turn, Controller.fixed_pacing.step f turn]

namespace Keeps

variable {f : Floor} {since : Nat → Nat} {i : Nat} {caller : Caller} {last : Option Dispatch} {turn : Turn}

/-- Nothing is sent by a call that is not there, and a run that is asked for owes nothing. -/
theorem step_none (h : f.Keeps since i last) (hi : f.callers[i]? = none)
    (hrun : ∀ new, (f.step turn).callers[i]? = some new → ∃ p, new.request = .run p) :
    f.sentBy i [turn] = [] ∧ (f.step turn).Keeps (f.arrivals since turn) i last := by
  have hasked (new : Caller) (hnew : (f.step turn).callers[i]? = some new) :
      new = ⟨new.request, new.request.call⟩ := by
    rcases step_caller hnew with hasked | ⟨old, hold, -⟩
    · exact hasked
    · cases hi.symm.trans hold
  have htold : (f.step turn).told i = [] := by
    cases hnew : (f.step turn).callers[i]? with
    | none => simp [told, hnew]
    | some new =>
      rw [told_eq hnew, hasked new hnew]
      cases new.request <;> rfl
  refine ⟨sentBy_eq_nil ?_, fun new hnew => ?_, fun _ => h.fresh hi⟩
  · rw [run_cons, run_nil, htold]
    simp [told, hi]
  · obtain ⟨p, hp⟩ := hrun new hnew
    rw [hasked new hnew, hp, h.fresh hi]
    exact ⟨0, .begin, by simp⟩

/-- A run keeps its distance at a turn in time. -/
theorem step_some (h : f.Keeps since i last) (hi : f.callers[i]? = some caller)
    (hin : f.InTime since turn) :
    (f.sentBy i [turn] = [] ∧ (f.step turn).Keeps (f.arrivals since turn) i last) ∨
    ∃ d, f.sentBy i [turn] = [d] ∧ (∀ e ∈ last, e.moment + f.gap ≤ d.moment) ∧
      (f.step turn).Keeps (f.arrivals since turn) i (some d) := by
  have hpacing := Controller.fixed_pacing.step f turn
  have keeps {new : Caller} {later : Option Dispatch} (hnew : (f.step turn).callers[i]? = some new)
      (hd : new.call.Distant f.gap f.controller.pacing (f.arrivals since turn i) later) :
      (f.step turn).Keeps (f.arrivals since turn) i later := by
    refine ⟨fun same hsame => ?_, fun hnone => by cases hnew.symm.trans hnone⟩
    cases hnew.symm.trans hsame
    rwa [gap_step, hpacing]
  rcases step_chore hi turn with ⟨task, rest, ht, hchore, -, hnew⟩ | ⟨hchore, hsame | hdropped⟩
  · have hnow : f.arrivals since turn i = f.controller.clock.nanoseconds := by simp [arrivals, hchore]
    have hsent : f.sentBy i [turn] = (caller.call.effects f.controller).filterMap Effect.dispatch? :=
      sentBy_eq (by rw [run_cons, run_nil, told_eq hnew, told_eq hi, Call.told_doNext])
    have hspan := hin i (List.getElem?_eq_some_iff.1 hi).1 task (by simp [hchore])
    rw [hsent]
    rcases (h.distant caller hi).doNext ht hspan with ⟨hnone, hd⟩ | ⟨d, hd, hdistance, hdistant⟩
    · exact Or.inl ⟨hnone, keeps hnew (by rwa [hnow])⟩
    · exact Or.inr ⟨d, hd, hdistance, keeps hnew (by rwa [hnow])⟩
  · have hsince : f.arrivals since turn i = since i := by simp [arrivals, hchore]
    refine Or.inl ⟨sentBy_eq_nil ?_, keeps hsame ?_⟩
    · rw [run_cons, run_nil, told_eq hsame, told_eq hi]
    · rw [hsince]
      exact h.distant caller hi
  · -- a call that is dropped has nothing left to send
    obtain ⟨owed, -, paid⟩ := h.distant caller hi
    have hsince : f.arrivals since turn i = since i := by simp [arrivals, hchore]
    refine Or.inl ⟨sentBy_eq_nil ?_, keeps hdropped ?_⟩
    · rw [run_cons, run_nil, told_eq hdropped, told_eq hi]
      rfl
    · rw [hsince]
      exact ⟨owed, .done, paid⟩

/-- The commands that a run sends at timely turns are at least the gap apart. The induction is on the turns,
with the last command that was sent before them. -/
theorem run {p : Program} {call : Call} {turns : List Turn} (h : f.Keeps since i last)
    (timely : f.Timely since turns) (hi : (f.run turns).callers[i]? = some ⟨.run p, call⟩) :
    (last.toList ++ f.sentBy i turns).IsChain fun d e => d.moment + f.gap ≤ e.moment := by
  induction turns generalizing f since last with
  | nil => cases last <;> simp [sentBy, story]
  | cons turn turns ih =>
    rw [sentBy_cons]
    have stepped : (f.sentBy i [turn] = [] ∧ (f.step turn).Keeps (f.arrivals since turn) i last) ∨
        ∃ d, f.sentBy i [turn] = [d] ∧ (∀ e ∈ last, e.moment + f.gap ≤ d.moment) ∧
          (f.step turn).Keeps (f.arrivals since turn) i (some d) := by
      cases hc : f.callers[i]? with
      | some caller => exact h.step_some hc timely.1
      | none =>
        refine Or.inl (h.step_none hc fun new hnew => ?_)
        obtain ⟨same, hsame, hr⟩ := run_caller_of hnew turns
        cases hsame.symm.trans hi
        exact ⟨p, hr.symm⟩
    rcases stepped with ⟨hnone, hkeeps⟩ | ⟨d, hsent, hdistance, hkeeps⟩
    · rw [hnone, List.nil_append, ← f.gap_step turn]
      exact ih hkeeps timely.2 hi
    · have hchain := ih hkeeps timely.2 hi
      rw [gap_step] at hchain
      rw [hsent]
      cases last with
      | none => exact hchain
      | some e => exact .cons_cons (hdistance e rfl) hchain

end Keeps

/-- **Distance.** Take any calls of a controller and let them take turns in any order, with fewer than
`2 ^ 64` runs (`Floor.tickets_fit`), while commands are accepted or refused. If the turns are timely, two
commands that a run sends one after the other, be it by its blocks or at its end, are at least the settling
of the channel and a pacing apart. A recorder holds just the commands that are sent. -/
theorem commands_spaced (channel : Channel) (log : EventLog) (pacing : Duration) (turns : List Turn)
    (timely : (Floor.new (.new channel log pacing)).Timely (fun _ => 0) turns) :
    let f := Floor.new (.new channel log pacing)
    (channel.isRecorder = true → (f.run turns).controller.channel.records =
      ((f.story turns).filterMap (·.2.dispatch?)).reverse ++ channel.records) ∧
    ∀ i p call, (f.run turns).callers[i]? = some ⟨.run p, call⟩ →
      (((f.story turns).filter (·.1 == i)).filterMap (·.2.dispatch?)).IsChain
        fun d e => d.moment + (channel.settle + pacing) ≤ e.moment := by
  intro f
  refine ⟨fun hr => records_run hr turns, fun i p call hi => ?_⟩
  have hnone (i : Nat) : f.callers[i]? = none := by simp [f, Floor.new]
  have hkeeps : f.Keeps (fun _ => 0) i none := by
    refine ⟨fun caller hc => ?_, fun _ => rfl⟩
    cases (hnone i).symm.trans hc
  exact hkeeps.run timely hi

/-- A run of three moves with a settling and a pacing of 50 ms each. The second command is refused, so that
only the pacing of its block lies behind it. -/
theorem commands_spaced_around_refusal :
    let p := Program.ofChains [.move .forward, .move .left, .move .right]
    let rest : List Turn := List.flatten
      [List.replicate 5 .work,
        [.yield, .clock 50, .wake 0, .yield, .reach false, .clock 100, .wake 0], List.replicate 5 .work,
        [.yield, .reach true, .clock 150, .wake 0], List.replicate 5 .work,
        [.yield, .clock 200, .wake 0, .yield, .clock 250, .wake 0], List.replicate 4 .work,
        [.yield, .clock 300, .wake 0, .work]]
    let f := Floor.new (.new (.recorder (.new 50)) (.new 8) 50)
    f.Timely (fun _ => 0) (.ask (.run p) :: rest) ∧
      (f.run (.ask (.run p) :: rest)).controller.channel.records.reverse.map (·.time) = [0, 150, 250] ∧
      (((f.story (.ask (.run p) :: rest)).filter (·.1 == 0)).filterMap (·.2.dispatch?)).IsChain
        fun d e => d.moment + (50 + 50) ≤ e.moment := by
  intro p rest f
  have timely : f.Timely (fun _ => 0) (.ask (.run p) :: rest) := by decide +kernel
  have hfirst : (f.step (.ask (.run p))).callers[0]? = some ⟨.run p, .run p⟩ := rfl
  obtain ⟨⟨request, call⟩, hi, hr⟩ := run_caller_of hfirst rest
  obtain rfl : request = .run p := hr
  rw [← run_cons] at hi
  refine ⟨timely, by decide +kernel, ?_⟩
  exact (commands_spaced (.recorder (.new 50)) (.new 8) 50 (.ask (.run p) :: rest) timely).2 0 p call hi

end Floor

end BlockPilot
