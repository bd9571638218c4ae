import BlockPilot.Proofs.Ownership
import BlockPilot.Proofs.Walk

/-!
# The stages of a run

`RunStage p told call` says where a run of `p` stands and what it has shown: while it has not been
told to stop, what it has shown and the script of the tasks that are left make up the script of the
program; when it has been told, what it has shown begins that script, and every task in front of the
end looks at the ticket before it does anything. `RunStage.doNext` is the step: one task leads from
stage to stage.
-/

namespace BlockPilot

/-! ## Stages -/

/-- Where a call stands: what it has to do, what it holds, what it has answered and shown. -/
structure Call.At (call : Call) (tasks : List Task) (ticket : Option Ticket) (answer : Option Answer)
    (cues : List Cue) : Prop where
  tasks : call.tasks = tasks
  ticket : call.ticket = ticket
  answer : call.answer = answer
  shown : Plays call.trace.reverse cues
  errors : call.errors = faults cues

/-- A task leads on from where a call stands. -/
theorem Call.At.doNext {c : Controller} {call : Call} {task : Task} {rest more : List Task}
    {ticket ticket' : Option Ticket} {answer answer' : Option Answer} {cues now : List Cue}
    (h : call.At (task :: rest) ticket answer cues)
    (hs : Steps { call with tasks := rest } (Call.perform c { call with tasks := rest } task) now more
      ticket' answer') :
    (call.doNext c).2.At (more ++ rest) ticket' answer' (cues ++ now) := by
  rw [Call.doNext_cons h.tasks]
  refine ⟨hs.tasks, hs.ticket, hs.answer, ?_, ?_⟩
  · simpa [Call.traced, hs.trace] using h.shown.append hs.shown
  · rw [faults_append, ← h.errors]
    exact hs.errors

/-- Where a run of a program stands, and whether it has been told to stop. -/
inductive RunStage (p : Program) (told : Bool) (call : Call) : Prop
  | asked (at_ : call.At [.begin p] none none [])
  | refused (at_ : call.At [] none (some (.ran .alreadyRunning 0)) [])
  | walking (k : Ticket) (w : List Task) (nodes : List Cue)
    (at_ : call.At (w ++ [.conclude]) (some k) none (Program.opening :: nodes)) (lined : Lined w)
    (going : told = false → nodes ++ w.flatMap Task.script = p.script)
    (halt : told = true → nodes <+: p.script ∧ ∀ t ∈ w, t.looks = true)
  | halting (k : Ticket) (nodes : List Cue) (halt : told = true)
    (at_ : call.At [.finish .stopped] (some k) none (Program.opening :: nodes))
    (begins : nodes <+: p.script)
  | closing (k : Ticket) (going : told = false)
    (at_ : call.At [.send ⟨.stop, none⟩, .finish .completed] (some k) none
      (Program.opening :: p.script ++ [.say ⟨.success, "Complete!"⟩]))
  | settled (k : Ticket) (pauses : List Task)
    (at_ : call.At (pauses ++ [.finish .completed]) (some k) none p.fullScript)
    (pause : ∀ t ∈ pauses, ∃ n, t = .pause n)
  | stopped (nodes : List Cue)
    (at_ : call.At [] none (some (.ran .stopped (faults nodes))) (Program.opening :: nodes))
    (begins : nodes <+: p.script)
  | completed (at_ : call.At [] none (some (.ran .completed p.failures)) p.fullScript)
  | dropped (cues : List Cue) (at_ : call.At [] none none cues)

namespace RunStage

variable {p : Program} {told : Bool} {c : Controller} {call : Call}

/-- Nothing is told to a run that is over. -/
theorem of_over (h : RunStage p told call) (ho : call.tasks = []) (told' : Bool) :
    RunStage p told' call := by
  cases h with
  | asked at_ | walking _ _ _ at_ | halting _ _ _ at_ | closing _ _ at_ | settled _ _ at_ =>
    simp [at_.tasks] at ho
  | refused at_ => exact .refused at_
  | stopped nodes at_ begins => exact .stopped nodes at_ begins
  | completed at_ => exact .completed at_
  | dropped cues at_ => exact .dropped cues at_

theorem ticket_of_over (h : RunStage p told call) (ho : call.tasks = []) : call.ticket = none := by
  cases h with
  | asked at_ | walking _ _ _ at_ | halting _ _ _ at_ | closing _ _ at_ | settled _ _ at_ =>
    simp [at_.tasks] at ho
  | refused at_ | stopped _ at_ | completed at_ | dropped _ at_ => exact at_.ticket

/-- Where a run stands that has begun and has answered. -/
theorem answered (h : RunStage p told call) {outcome : Outcome} {errors : Nat}
    (ha : call.answer = some (.ran outcome errors)) (ho : outcome ≠ .alreadyRunning) :
    (outcome = .stopped ∧ ∃ nodes, nodes <+: p.script ∧
        call.At [] none (some (.ran .stopped (faults nodes))) (Program.opening :: nodes)) ∨
      outcome = .completed ∧ call.At [] none (some (.ran .completed p.failures)) p.fullScript := by
  cases h with
  | stopped nodes at_ begins =>
    obtain ⟨rfl, -⟩ : Outcome.stopped = outcome ∧ faults nodes = errors := by
      simpa using at_.answer.symm.trans ha
    exact Or.inl ⟨rfl, nodes, begins, at_⟩
  | completed at_ =>
    obtain ⟨rfl, -⟩ : Outcome.completed = outcome ∧ p.failures = errors := by
      simpa using at_.answer.symm.trans ha
    exact Or.inr ⟨rfl, at_⟩
  | refused at_ =>
    obtain ⟨rfl, -⟩ : Outcome.alreadyRunning = outcome ∧ 0 = errors := by
      simpa using at_.answer.symm.trans ha
    exact absurd rfl ho
  | asked at_ | walking _ _ _ at_ | halting _ _ _ at_ | closing _ _ at_ | settled _ _ at_ | dropped _ at_ =>
    simp [at_.answer] at ha

/-- In front of a run is a task of its walk, or the last one that it has. -/
theorem front (h : RunStage p told call) {task : Task} {rest : List Task}
    (ht : call.tasks = task :: rest) :
    task.looks = true ∨ task.acts = true ∨ rest = [] ∧
      (task = .begin p ∧ call.ticket = none ∨ task = .conclude ∨ told = true ∧ task = .finish .stopped ∨
        task = .finish .completed ∧ ∃ k, call.At [.finish .completed] (some k) none p.fullScript) := by
  cases h with
  | asked at_ =>
    obtain ⟨rfl, rfl⟩ : Task.begin p = task ∧ [] = rest := by simpa using at_.tasks.symm.trans ht
    simp [at_.ticket]
  | walking k w nodes at_ lined =>
    have hw := at_.tasks.symm.trans ht
    cases w with
    | nil =>
      obtain ⟨rfl, rfl⟩ : Task.conclude = task ∧ [] = rest := by simpa using hw
      simp
    | cons first w =>
      obtain ⟨rfl, -⟩ : first = task ∧ w ++ [.conclude] = rest := by simpa using hw
      rcases lined.1 with hl | ha
      · exact Or.inl hl
      · exact Or.inr (Or.inl ha)
  | halting k nodes halt at_ =>
    obtain ⟨rfl, rfl⟩ : Task.finish .stopped = task ∧ [] = rest := by
      simpa using at_.tasks.symm.trans ht
    simp [halt]
  | closing k going at_ =>
    obtain ⟨rfl, -⟩ : Task.send ⟨.stop, none⟩ = task ∧ [.finish .completed] = rest := by
      simpa using at_.tasks.symm.trans ht
    exact Or.inr (Or.inl rfl)
  | settled k pauses at_ pause =>
    have hw := at_.tasks.symm.trans ht
    cases pauses with
    | nil =>
      obtain ⟨rfl, rfl⟩ : Task.finish .completed = task ∧ [] = rest := by simpa using hw
      exact Or.inr (Or.inr ⟨rfl, Or.inr (Or.inr (Or.inr ⟨rfl, k, at_⟩))⟩)
    | cons first pauses =>
      obtain ⟨rfl, -⟩ : first = task ∧ pauses ++ [.finish .completed] = rest := by simpa using hw
      obtain ⟨n, rfl⟩ := pause first (by simp)
      exact Or.inl rfl
  | refused at_ | stopped _ at_ | completed at_ | dropped _ at_ => simp [at_.tasks] at ht

/-- A run is told to stop while it sleeps, so that no task in front acts any more. -/
theorem tell (h : RunStage p false call) {n : Nat} {rest : List Task}
    (hs : call.tasks = .pause n :: rest) : RunStage p true call := by
  cases h with
  | asked at_ => exact .asked at_
  | refused at_ => exact .refused at_
  | walking k w nodes at_ lined going halt =>
    refine .walking k w nodes at_ lined (fun h => by cases h) fun _ => ⟨⟨_, going rfl⟩, ?_⟩
    have ht := at_.tasks
    rw [hs] at ht
    cases w with
    | nil => simp at ht
    | cons task w =>
      simp only [List.cons_append, List.cons.injEq] at ht
      intro t hm
      rcases List.mem_cons.1 hm with rfl | hm
      · rw [← ht.1]
        rfl
      · exact lined.2 t hm
  | halting k nodes halt => cases halt
  | closing k going at_ =>
    rw [at_.tasks] at hs
    simp at hs
  | settled k pauses at_ pause => exact .settled k pauses at_ pause
  | stopped nodes at_ begins => exact .stopped nodes at_ begins
  | completed at_ => exact .completed at_
  | dropped cues at_ => exact .dropped cues at_

/-- A run takes its ticket, unless another goes on; its own ticket does not stop it. -/
theorem doNext_asked (h : call.At [.begin p] none none []) :
    RunStage p false (call.doNext c).2 ∧
      ((call.doNext c).2.stops (call.doNext c).1 = false ∨ (call.doNext c).2.tasks = []) := by
  cases hb : c.token.begin? with
  | none =>
    have hs : Steps { call with tasks := [] } (Call.perform c { call with tasks := [] } (.begin p))
        [] [] none (some (.ran .alreadyRunning 0)) := by
      simp only [Call.perform, Call.doBegin, hb]
      exact ⟨Plays.nil, rfl, h.ticket, rfl, rfl, rfl⟩
    have ha := h.doNext hs
    exact ⟨.refused ha, Or.inr ha.tasks⟩
  | some r =>
    obtain ⟨k, t'⟩ := r
    have hs : Steps { call with tasks := [] } (Call.perform c { call with tasks := [] } (.begin p))
        [Program.opening] [.sequences p.sequences, .conclude] (some k) none := by
      simp only [Call.perform, Call.doBegin, hb]
      exact ⟨Plays.began _ _, rfl, rfl, h.answer, rfl, rfl⟩
    have ha := h.doNext hs
    refine ⟨.walking k [.sequences p.sequences] [] ha (by simp [Lined, Task.looks])
      (fun _ => by simp [Task.script, Program.script]) (fun h => by cases h), Or.inl ?_⟩
    have ht : (call.doNext c).1.token = t' := by
      rw [Call.doNext_cons h.tasks]
      simp [Call.perform, Call.doBegin, hb, Controller.apply, Controller.beginRun]
    obtain ⟨_, hk, hg, _, hn⟩ := Token.begin?_eq_some hb
    rw [Call.stops_of_some ha.ticket, ht, Token.stops_eq_false]
    exact ⟨by omega, hn⟩

/-- Behind its last sequence a run ends as stopped if it has been told to, and else as completed. -/
theorem doNext_conclude {k : Ticket} {nodes : List Cue}
    (h : call.At [.conclude] (some k) none (Program.opening :: nodes))
    (going : call.stops c = false → nodes = p.script)
    (halt : call.stops c = true → nodes <+: p.script) :
    RunStage p (call.stops c) (call.doNext c).2 ∧
      (call.doNext c).2.stops (call.doNext c).1 = call.stops c := by
  have hst : Call.stops { call with tasks := [] } c = call.stops c := rfl
  cases hs : call.stops c with
  | true =>
    have hp : Call.perform c { call with tasks := [] } .conclude =
        ([], { call with tasks := [.finish .stopped] }) := by
      simp [Call.perform, hst, hs, Call.push]
    have hw : Steps { call with tasks := [] } (Call.perform c { call with tasks := [] } .conclude)
        [] [.finish .stopped] (some k) none := by
      rw [hp]
      exact ⟨Plays.nil, rfl, h.ticket, h.answer, rfl, rfl⟩
    have ha := h.doNext hw
    refine ⟨.halting k nodes rfl (by simpa using ha) (halt hs), ?_⟩
    rw [← hs]
    exact Call.stops_doNext h.tasks (by simp [hp]) (by simp [hp])
  | false =>
    have hp : Call.perform c { call with tasks := [] } .conclude =
        ([.emitted ⟨.success, "Complete!"⟩],
          { call with tasks := [.send ⟨.stop, none⟩, .finish .completed] }) := by
      simp [Call.perform, hst, hs, Call.push]
    have hw : Steps { call with tasks := [] } (Call.perform c { call with tasks := [] } .conclude)
        [.say ⟨.success, "Complete!"⟩] [.send ⟨.stop, none⟩, .finish .completed] (some k) none := by
      rw [hp]
      exact ⟨Plays.emitted _, rfl, h.ticket, h.answer, rfl, rfl⟩
    have ha := h.doNext hw
    rw [going hs] at ha
    refine ⟨.closing k rfl ha, ?_⟩
    rw [← hs]
    exact Call.stops_doNext h.tasks (by simp [hp, Effect.isQuiet]) (by simp [hp])

/-- A run reports and gives its ticket back. -/
theorem doNext_finish {k : Ticket} {outcome : Outcome} {cues : List Cue}
    (h : call.At [.finish outcome] (some k) none cues) :
    (call.doNext c).2.At [] none (some (.ran outcome (faults cues))) cues := by
  have hs : Steps { call with tasks := [] } (Call.perform c { call with tasks := [] } (.finish outcome))
      [] [] none (some (.ran outcome (faults cues))) := by
    simp only [Call.perform, Call.doFinish, h.ticket, h.errors]
    exact ⟨Plays.finished _ _ _, rfl, rfl, rfl, rfl, rfl⟩
  simpa using h.doNext hs

/-- While it may go on, a task of a walk shows what its script says. -/
theorem doNext_going {k : Ticket} {task : Task} {w : List Task} {nodes : List Cue}
    (h : call.At (task :: w ++ [.conclude]) (some k) none (Program.opening :: nodes))
    (lined : Lined (task :: w)) (going : nodes ++ (task :: w).flatMap Task.script = p.script)
    (hs : call.stops c = false) :
    RunStage p false (call.doNext c).2 ∧
      (call.doNext c).2.stops (call.doNext c).1 = call.stops c := by
  obtain ⟨now, more, hw⟩ :=
    Walked.perform c { call with tasks := w ++ [.conclude] } task hs lined.1
  have ha := h.doNext hw.toSteps
  simp only [h.ticket, h.answer] at ha
  refine ⟨.walking k (more ++ w) (nodes ++ now) (by simpa using ha) (hw.lined.append lined.2)
    (fun _ => ?_) (fun h => by cases h), ?_⟩
  · rw [← going, List.flatMap_append, List.flatMap_cons, ← hw.script]
    simp
  · exact Call.stops_doNext h.tasks hw.quiet hw.ticket

/-- When it has been told to stop, a task of a walk does nothing. -/
theorem doNext_told {k : Ticket} {task : Task} {w : List Task} {nodes : List Cue}
    (h : call.At (task :: w ++ [.conclude]) (some k) none (Program.opening :: nodes))
    (looks : ∀ t ∈ task :: w, t.looks = true) (begins : nodes <+: p.script)
    (hs : call.stops c = true) :
    RunStage p true (call.doNext c).2 ∧
      (call.doNext c).2.stops (call.doNext c).1 = call.stops c := by
  have hp := Call.perform_of_stops c { call with tasks := w ++ [.conclude] } task hs
    (looks task (by simp))
  have hw : Steps { call with tasks := w ++ [.conclude] }
      (Call.perform c { call with tasks := w ++ [.conclude] } task) [] [] (some k) none := by
    rw [hp]
    exact ⟨Plays.nil, rfl, h.ticket, h.answer, rfl, rfl⟩
  have ha := h.doNext hw
  have hl : ∀ t ∈ w, t.looks = true := fun t ht => looks t (by simp [ht])
  refine ⟨.walking k w nodes (by simpa using ha) (Lined.of_looks hl) (fun h => by cases h)
    (fun _ => ⟨begins, hl⟩), ?_⟩
  exact Call.stops_doNext h.tasks (by simp [hp]) (by simp [hp])

/-- The stop command of a run that is complete. -/
theorem doNext_closing (told : Bool) {k : Ticket}
    (h : call.At [.send ⟨.stop, none⟩, .finish .completed] (some k) none
      (Program.opening :: p.script ++ [.say ⟨.success, "Complete!"⟩])) :
    RunStage p told (call.doNext c).2 ∧
      (call.doNext c).2.stops (call.doNext c).1 = call.stops c := by
  obtain ⟨more, hw, hm⟩ :=
    Walked.send c { call with tasks := [.finish .completed] } ⟨.stop, none⟩
  have ha := h.doNext hw.toSteps
  simp only [h.ticket, h.answer] at ha
  refine ⟨.settled k more (by simpa [Program.fullScript, Program.closing] using ha) hm, ?_⟩
  exact Call.stops_doNext h.tasks hw.quiet hw.ticket

/-- Behind its stop command a run only waits and reports. -/
theorem doNext_settled {k : Ticket} {pauses : List Task}
    (h : call.At (pauses ++ [.finish .completed]) (some k) none p.fullScript)
    (hp : ∀ t ∈ pauses, ∃ n, t = .pause n) :
    RunStage p told (call.doNext c).2 ∧
      ((call.doNext c).2.stops (call.doNext c).1 = call.stops c ∨ (call.doNext c).2.tasks = []) := by
  cases pauses with
  | nil =>
    have ha := doNext_finish (c := c) h
    rw [Program.failures_fullScript] at ha
    exact ⟨.completed ha, Or.inr ha.tasks⟩
  | cons task pauses =>
    obtain ⟨n, rfl⟩ := hp task (by simp)
    have hw : Steps { call with tasks := pauses ++ [.finish .completed] }
        (Call.perform c { call with tasks := pauses ++ [.finish .completed] } (.pause n)) [] []
        (some k) none :=
      ⟨Plays.nil, rfl, h.ticket, h.answer, rfl, rfl⟩
    have ha := h.doNext hw
    refine ⟨.settled k pauses (by simpa using ha) (fun t ht => hp t (by simp [ht])), Or.inl ?_⟩
    exact Call.stops_doNext h.tasks (by simp [Call.perform]) (by simp [Call.perform])

/-- **The step of a run.** One task leads from stage to stage, and changes nothing about whether the
run has been told to stop before it is over. -/
theorem doNext (h : RunStage p (call.stops c) call) :
    RunStage p (call.stops c) (call.doNext c).2 ∧
      ((call.doNext c).2.stops (call.doNext c).1 = call.stops c ∨ (call.doNext c).2.tasks = []) := by
  have ended (ho : call.tasks = []) : RunStage p (call.stops c) (call.doNext c).2 ∧
      ((call.doNext c).2.stops (call.doNext c).1 = call.stops c ∨ (call.doNext c).2.tasks = []) := by
    rw [Call.doNext_nil ho]
    exact ⟨h, Or.inl rfl⟩
  cases h with
  | asked at_ =>
    rw [Call.stops_of_none at_.ticket]
    exact doNext_asked at_
  | walking k w nodes at_ lined going halt =>
    cases w with
    | nil =>
      have := doNext_conclude (p := p) (c := c) (by simpa using at_) (by simpa using going)
        (fun hs => (halt hs).1)
      exact ⟨this.1, Or.inl this.2⟩
    | cons task w =>
      cases hs : call.stops c with
      | false =>
        have := doNext_going at_ lined (going hs) hs
        exact ⟨this.1, Or.inl (this.2.trans hs)⟩
      | true =>
        have := doNext_told at_ (halt hs).2 (halt hs).1 hs
        exact ⟨this.1, Or.inl (this.2.trans hs)⟩
  | halting k nodes halt at_ begins =>
    have ha := doNext_finish (c := c) at_
    have hf : faults (Program.opening :: nodes) = faults nodes := by
      simp [Program.opening, Cue.isFail]
    rw [hf] at ha
    exact ⟨.stopped nodes ha begins, Or.inr ha.tasks⟩
  | closing k going at_ =>
    have := doNext_closing (c := c) (call.stops c) at_
    exact ⟨this.1, Or.inl this.2⟩
  | settled k pauses at_ pause => exact doNext_settled at_ pause
  | refused at_ => exact ended at_.tasks
  | stopped nodes at_ begins => exact ended at_.tasks
  | completed at_ => exact ended at_.tasks
  | dropped cues at_ => exact ended at_.tasks

/-- A run that has been told to stop shows nothing more. -/
theorem marks_doNext (h : RunStage p true call) (hs : call.stops c = true) :
    (call.doNext c).2.marks = call.marks := by
  cases ht : call.tasks with
  | nil => rw [Call.doNext_nil ht]
  | cons task rest =>
    have silent : (Call.perform c { call with tasks := rest } task).1.flatMap Effect.marks = [] := by
      cases h with
      | asked at_ => simp [Call.stops_of_none at_.ticket] at hs
      | walking k w nodes at_ lined going halt =>
        have hw := at_.tasks.symm.trans ht
        cases w with
        | nil =>
          obtain ⟨rfl, rfl⟩ : Task.conclude = task ∧ [] = rest := by simpa using hw
          have : Call.stops { call with tasks := [] } c = true := hs
          simp [Call.perform, this]
        | cons first w =>
          obtain ⟨rfl, rfl⟩ : first = task ∧ w ++ [.conclude] = rest := by simpa using hw
          have hl := (halt rfl).2 first (by simp)
          simp [Call.perform_of_stops c { call with tasks := w ++ [.conclude] } first hs hl]
      | halting k nodes halt at_ begins =>
        obtain ⟨rfl, rfl⟩ : Task.finish .stopped = task ∧ [] = rest := by
          simpa using at_.tasks.symm.trans ht
        simp [Call.perform, Call.doFinish, at_.ticket, Effect.marks]
      | closing k going => cases going
      | settled k pauses at_ pause =>
        have hw := at_.tasks.symm.trans ht
        cases pauses with
        | nil =>
          obtain ⟨rfl, rfl⟩ : Task.finish .completed = task ∧ [] = rest := by simpa using hw
          simp [Call.perform, Call.doFinish, at_.ticket, Effect.marks]
        | cons first pauses =>
          obtain ⟨n, rfl⟩ := pause first (by simp)
          obtain ⟨rfl, rfl⟩ : Task.pause n = task ∧ pauses ++ [.finish .completed] = rest := by
            simpa using hw
          rfl
      | refused at_ | stopped _ at_ | completed at_ | dropped _ at_ => simp [at_.tasks] at ht
    simp [Call.marks, Call.trace_doNext ht, silent]

end RunStage

end BlockPilot
