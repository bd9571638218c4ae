import BlockPilot.Proofs.Ending

/-!
# A run that nobody stops

A run that is never told to stop shows the whole script of its program, whatever the channel answers
and whatever else becomes of the controller meanwhile. This is said of a run whose tasks each find
the controller in any state at all (`Call.doAll`), of a run that nobody disturbs, together with the
log and the records that it leaves, and of any run among other calls.
-/

namespace BlockPilot

namespace Call

/-! ## To the end -/

/-- Does all the tasks of a call; `world n` is the controller as the task with the number `n` finds
it. -/
def doAll (world : Nat → Controller) (call : Call) : Call :=
  match _h : call.tasks with
  | [] => call
  | _ :: _ => (call.doNext (world 0)).2.doAll fun n => world (n + 1)
termination_by call.weight
decreasing_by exact weight_doNext_lt _h

theorem doAll_nil {world : Nat → Controller} {call : Call} (h : call.tasks = []) :
    call.doAll world = call := by
  rw [doAll.eq_def]
  split
  · rfl
  · simp_all

theorem doAll_cons {world : Nat → Controller} {call : Call} {task : Task} {rest : List Task}
    (h : call.tasks = task :: rest) :
    call.doAll world = (call.doNext (world 0)).2.doAll fun n => world (n + 1) := by
  rw [doAll.eq_def]
  split
  · simp_all
  · rfl

/-- The controller lets a run begin with its first task and does not tell it to stop at any later
one. -/
structure Calm (world : Nat → Controller) : Prop where
  begins : (world 0).token.running = false
  goes : ∀ n, (world (n + 1)).token.stops ⟨(world 0).token.generation + 1⟩ = false

/-- A run of `p` that is over and has shown the whole script. -/
structure Whole (p : Program) (call : Call) : Prop where
  ended : call.tasks = []
  answer : call.answer = some (.ran .completed p.failures)
  answered : call.answers.length = sends p.fullScript
  shown : call.marks = play call.answers p.fullScript

theorem Whole.of_at {p : Program} {call : Call}
    (h : call.At [] none (some (.ran .completed p.failures)) p.fullScript) : call.Whole p :=
  ⟨h.tasks, h.answer, h.shown.answered, h.shown.shown⟩

end Call

namespace RunStage

variable {p : Program} {c : Controller} {call : Call} {k : Ticket}

/-- A run that has its ticket and need not stop keeps the ticket, or is over and has shown all. -/
theorem whole_or_on (h : RunStage p false call) (hk : call.ticket = some k) :
    (call.doNext c).2.ticket = some k ∨ (call.doNext c).2.Whole p := by
  cases ht : call.tasks with
  | nil =>
    rw [Call.doNext_nil ht]
    exact Or.inl hk
  | cons task rest =>
    have hf := h.front ht
    by_cases hd : task = .finish .completed
    · subst hd
      obtain ⟨-, k', at_⟩ : rest = [] ∧ ∃ k, call.At [.finish .completed] (some k) none p.fullScript := by
        simpa [Task.looks, Task.acts] using hf
      have ha := doNext_finish (c := c) at_
      rw [Program.failures_fullScript] at ha
      exact Or.inr (.of_at ha)
    · left
      rw [Call.ticket_doNext ht ?_ ?_, hk]
      · rintro q rfl
        simp [Task.looks, Task.acts, hk] at hf
      · rintro o rfl
        cases o <;> simp [Task.looks, Task.acts] at hf hd

/-- A run that has its ticket and is never told to stop comes to its end. -/
theorem whole_doAll {world : Nat → Controller} (h : RunStage p false call) (hk : call.ticket = some k)
    (hw : ∀ n, (world n).token.stops k = false) : (call.doAll world).Whole p := by
  induction hn : call.weight using Nat.strongRecOn generalizing call world with
  | ind n ih =>
    cases ht : call.tasks with
    | nil => simp [h.ticket_of_over ht] at hk
    | cons task rest =>
      have hs : call.stops (world 0) = false := by rw [Call.stops_of_some hk, hw 0]
      have hnext : RunStage p false (call.doNext (world 0)).2 := by
        have := (doNext (c := world 0) (by rwa [hs])).1
        rwa [hs] at this
      rw [Call.doAll_cons ht]
      rcases h.whole_or_on (c := world 0) hk with hk' | hd
      · exact ih _ (hn ▸ Call.weight_doNext_lt ht) hnext hk' (fun n => hw (n + 1)) rfl
      · rwa [Call.doAll_nil hd.ended]

/-- A run that goes on alone from `c₀` has made of it what its effects make. -/
structure Alone (c₀ c : Controller) (call : Call) : Prop where
  began : ∃ effects, call.trace.reverse = .began :: effects ∧ ∀ e ∈ effects, e ≠ .began
  controller : c = call.trace.reverse.foldl Controller.apply c₀

theorem Alone.doNext {c₀ : Controller} {task : Task} {rest : List Task} (h : Alone c₀ c call)
    (ht : call.tasks = task :: rest) (hb : ∀ p, task ≠ .begin p) :
    Alone c₀ (call.doNext c).1 (call.doNext c).2 := by
  obtain ⟨effects, he, hn⟩ := h.began
  refine ⟨⟨effects ++ (Call.perform c { call with tasks := rest } task).1, ?_, ?_⟩, ?_⟩
  · rw [Call.trace_doNext ht, he, List.cons_append]
  · intro e hm
    rcases List.mem_append.1 hm with hm | hm
    · exact hn e hm
    · exact Call.perform_ne_began c { call with tasks := rest } hb e hm
  · rw [Call.trace_doNext ht, List.foldl_append, ← h.controller, Call.doNext_cons ht]

/-- A run that goes on alone shows all and leaves what its effects make. -/
theorem whole_advance {c₀ : Controller} (h : RunStage p false call) (hk : call.ticket = some k)
    (hs : call.stops c = false) (ha : Alone c₀ c call) :
    (call.advance (fun _ => false) c).2.Whole p ∧
      Alone c₀ (call.advance (fun _ => false) c).1 (call.advance (fun _ => false) c).2 := by
  induction hn : call.weight using Nat.strongRecOn generalizing c call with
  | ind n ih =>
    cases ht : call.tasks with
    | nil => simp [h.ticket_of_over ht] at hk
    | cons task rest =>
      have hb : ∀ p, task ≠ .begin p := by
        rintro q rfl
        simpa [Task.looks, Task.acts, hk] using h.front ht
      have hnext := doNext (c := c) (by rwa [hs])
      have ha' := ha.doNext ht hb
      rw [hs] at hnext
      rw [Call.advance_doNext ht (by cases task <;> rfl)]
      rcases h.whole_or_on (c := c) hk with hk' | hd
      · have hs' : (call.doNext c).2.stops (call.doNext c).1 = false := by
          rcases hnext.2 with hs' | ho
          · exact hs'
          · simp [hnext.1.ticket_of_over ho] at hk'
        exact ih _ (hn ▸ Call.weight_doNext_lt ht) hnext.1 hk' hs' ha' rfl
      · rw [Call.advance_nil hd.ended]
        exact ⟨hd, ha'⟩

/-- What a run holds and has shown when it has just begun. -/
theorem begun {t : Token} (hb : c.token.begin? = some (k, t)) :
    RunStage p false ((Call.run p).doNext c).2 ∧
      ((Call.run p).doNext c).2.ticket = some k ∧
      ((Call.run p).doNext c).2.stops ((Call.run p).doNext c).1 = false ∧
      Alone c ((Call.run p).doNext c).1 ((Call.run p).doNext c).2 := by
  have ht : (Call.run p).tasks = [.begin p] := rfl
  have hat : (Call.run p).At [.begin p] none none [] := ⟨rfl, rfl, rfl, Plays.nil, rfl⟩
  obtain ⟨hstage, hs⟩ := doNext_asked (c := c) hat
  have hk : ((Call.run p).doNext c).2.ticket = some k := by
    simp [Call.doNext_cons ht, Call.perform, Call.doBegin, hb, Call.traced, Call.push]
  have htrace : ((Call.run p).doNext c).2.trace.reverse =
      [.began, .emitted ⟨.success, "Starting..."⟩, .planned p.sequences.length p.count] := by
    rw [Call.trace_doNext ht]
    simp [Call.perform, Call.doBegin, hb, Call.run, Call.ofTasks]
  refine ⟨hstage, hk, ?_, ⟨⟨_, htrace, by simp⟩, ?_⟩⟩
  · rcases hs with hs | ho
    · exact hs
    · simp [hstage.ticket_of_over ho] at hk
  · rw [htrace, Call.doNext_cons ht]
    simp [Call.perform, Call.doBegin, hb]

theorem whole_run {world : Nat → Controller} (hw : Call.Calm world) :
    ((Call.run p).doAll world).Whole p := by
  have hb : (world 0).token.begin? = some (⟨(world 0).token.generation + 1⟩,
      ⟨true, .none, (world 0).token.generation + 1, .running :: (world 0).token.transitions⟩) := by
    simp [Token.begin?, hw.begins]
  obtain ⟨hstage, hk, -, -⟩ := begun (p := p) hb
  have ht : (Call.run p).tasks = [.begin p] := rfl
  rw [Call.doAll_cons ht]
  exact hstage.whole_doAll hk hw.goes

end RunStage

/-- **The whole script.** A run that is never told to stop comes to its end, reports that it is
complete with one error for each block that it could not run, and shows the script of its program
for the answers that the channel gives it: when each of its tasks finds the controller in any state
at all, when nobody disturbs it, and among other calls, with fewer than `2 ^ 64` runs
(`Floor.tickets_fit`). When nobody disturbs it, the log and the records are left as the script
says. -/
theorem unstopped_run_plays_script (p : Program) :
    (∀ world : Nat → Controller, Call.Calm world → ((Call.run p).doAll world).Whole p) ∧
    (∀ c : Controller, c.token.running = false →
      let r := (Call.run p).advance (fun _ => false) c
      r.2.Whole p ∧
      r.1.log = (r.2.marks.flatMap Mark.events).foldl EventLog.emit c.log.clear ∧
      ∀ recorder, c.channel = .recorder recorder →
        r.1.channel.records.map (·.command) =
          (r.2.marks.filterMap Mark.taken?).reverse ++ recorder.records.map (·.command)) ∧
    (∀ (channel : Channel) (log : EventLog) (pacing : Duration) (turns : List Turn) (i : Nat) (call : Call)
        (outcome : Outcome) (errors : Nat),
      let f := Floor.new (.new channel log pacing)
      (f.run turns).callers[i]? = some ⟨.run p, call⟩ →
      (∀ before, before <+: turns → (f.run before).halts i = false) →
      call.answer = some (.ran outcome errors) → outcome ≠ .alreadyRunning → call.Whole p) := by
  refine ⟨fun world hw => RunStage.whole_run hw, fun c hi => ?_, ?_⟩
  · intro r
    obtain ⟨⟨k, t⟩, hb⟩ : ∃ x, c.token.begin? = some x := by simp [Token.begin?, hi]
    obtain ⟨hstage, hk, hs, ha⟩ := RunStage.begun (p := p) hb
    have hr : r = ((Call.run p).doNext c).2.advance (fun _ => false) ((Call.run p).doNext c).1 :=
      Call.advance_doNext rfl rfl
    have hend := hstage.whole_advance hk hs ha
    rw [← hr] at hend
    obtain ⟨hwhole, ⟨effects, he, hn⟩, hc⟩ := hend
    refine ⟨hwhole, ?_, fun recorder hrec => ?_⟩
    · rw [hc, he, List.foldl_cons, Controller.log_foldl effects hn, Call.marks, he]
      simp [Controller.apply, Controller.beginRun, hb, Effect.marks]
    · obtain ⟨r', hr', -, hcmd⟩ := Controller.records_foldl r.2.trace.reverse hrec
      rw [hc, hr']
      exact hcmd
  · intro channel log pacing turns i call outcome errors f hi hnever ha ho
    have hsound : f.Sound := Floor.sound_new channel log pacing
    obtain ⟨before, after, last, hturns, -, hlast, -, hdecided⟩ :=
      Floor.decided hsound rfl turns hi (Or.inr ⟨errors, ha⟩) ho
    have hcompleted : outcome = .completed := by
      rw [hdecided, ← hnever before ⟨_, hturns.symm⟩, Floor.halts_eq hlast]
    have hstage : RunStage p _ call := (Floor.sound_run hsound turns).stage i _ hi
    rcases hstage.answered ha ho with ⟨hs, -⟩ | ⟨-, at_⟩
    · rw [hs] at hcompleted
      cases hcompleted
    · exact .of_at at_

/-- A block that cannot be run, in a loop of two turns. -/
theorem unstopped_run_plays_script_in_loop :
    let p := Program.ofChains [.loop .counted (some (Chain.naturalField 2))
      (.block (.unsupported "spin" []) .stop) .nil]
    let c := Controller.new (.recorder (.new 0)) (.new 8) 0
    ((Call.run p).doAll fun | 0 => c | _ + 1 => c.beginRun).Whole p ∧ p.failures = 2 := by
  intro p c
  exact ⟨(unstopped_run_plays_script p).1 _ ⟨rfl, fun n => rfl⟩, by decide +kernel⟩

end BlockPilot
