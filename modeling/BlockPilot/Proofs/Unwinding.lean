import BlockPilot.Proofs.SessionTurns
import BlockPilot.Proofs.Standing

/-!
# How a run unwinds

When a run that sleeps is told to stop, it does exactly the tasks that it has left and reports
(`Floor.unwinding`): each of them is a pause, or it looks at the ticket and does nothing. Nothing keeps it
from its report unless it is dropped (`Floor.comes_to_report`). Inside a block there are the pause that the
run sleeps, the pacing that the block still owes, and one pacing for each loop around the block
(`Floor.stopped_run_unwinds`).
-/

namespace BlockPilot

/-! ## The tasks that a call does -/

namespace Floor

variable {f : Floor} {i : Nat} {caller : Caller}

/-- The first task of the call with a number. -/
def front? (f : Floor) (i : Nat) : Option Task :=
  f.callers[i]?.bind (·.call.tasks.head?)

/-- The task that a call does at a turn, if it does one: any task when it has the floor, and a pause when it
wakes. -/
def chore (f : Floor) (i : Nat) : Turn → List Task
  | .work => if f.holder = some i then (f.front? i).toList else []
  | .wake j => if f.holder = none ∧ j = i then (f.front? i).toList.filter (Task.isPause fun _ => true) else []
  | _ => []

/-- The tasks that a call does at some turns, in order. -/
def chores (f : Floor) (i : Nat) : List Turn → List Task
  | [] => []
  | turn :: turns => f.chore i turn ++ (f.step turn).chores i turns

theorem chores_append (f : Floor) (i : Nat) (a b : List Turn) :
    f.chores i (a ++ b) = f.chores i a ++ (f.run a).chores i b := by
  induction a generalizing f with
  | nil => rfl
  | cons turn a ih => simp [chores, ih]

theorem front?_eq (hi : f.callers[i]? = some caller) : f.front? i = caller.call.tasks.head? := by
  simp [front?, hi]

/-- At a turn a call does its first task, or it does none, and then it is dropped at most. -/
theorem step_chore (hi : f.callers[i]? = some caller) (turn : Turn) :
    (∃ task rest, caller.call.tasks = task :: rest ∧ f.chore i turn = [task] ∧
      (f.step turn).controller = (caller.call.doNext f.controller).1 ∧
      (f.step turn).callers[i]? = some { caller with call := (caller.call.doNext f.controller).2 }) ∨
    f.chore i turn = [] ∧ ((f.step turn).callers[i]? = some caller ∨
      (f.step turn).callers[i]? = some { caller with call := (caller.call.dropped f.controller).2 }) := by
  have hlt := (List.getElem?_eq_some_iff.1 hi).1
  cases turn with
  | ask request =>
    refine Or.inr ⟨rfl, Or.inl ?_⟩
    simp only [step]
    split
    · simp [List.getElem?_append_left hlt, hi]
    · exact hi
  | reach | clock => exact Or.inr ⟨rfl, Or.inl hi⟩
  | yield =>
    refine Or.inr ⟨rfl, Or.inl ?_⟩
    simp only [step]
    split
    · exact hi
    · split <;> exact hi
  | work =>
    by_cases hh : f.holder = some i
    · rw [step_work hh hi, put_here hi]
      cases ht : caller.call.tasks with
      | nil =>
        refine Or.inr ⟨by simp [chore, hh, front?_eq hi, ht], Or.inl ?_⟩
        rw [Call.doNext_nil ht]
      | cons task rest => exact Or.inl ⟨task, rest, rfl, by simp [chore, hh, front?_eq hi, ht], rfl, rfl⟩
    · refine Or.inr ⟨by simp [chore, hh], Or.inl ?_⟩
      simp only [step]
      split
      · exact hi
      · rename_i j hj
        have hji : j ≠ i := fun e => hh (by rw [hj, e])
        split
        · exact hi
        · exact (put_there hji _ _).trans hi
  | wake j =>
    by_cases hj : f.holder = none ∧ j = i
    · obtain ⟨hh, rfl⟩ := hj
      cases ha : caller.call.isAsleep with
      | true =>
        obtain ⟨n, rest, ht⟩ := Call.isAsleep_iff.1 ha
        refine Or.inl ⟨.pause n, rest, ht, by simp [chore, hh, front?_eq hi, ht, Task.isPause], ?_⟩
        rw [step_wake hh hi ha]
        exact ⟨rfl, put_here hi _⟩
      | false =>
        have hfront : (f.front? j).toList.filter (Task.isPause fun _ => true) = [] := by
          rw [front?_eq hi]
          cases ht : caller.call.tasks with
          | nil => rfl
          | cons task rest => cases task <;> simp_all [Call.isAsleep, Task.isPause]
        refine Or.inr ⟨by simpa [chore, hh] using hfront, Or.inl ?_⟩
        simp [step, hh, hi, ha]
    · refine Or.inr ⟨by simp [chore, hj], Or.inl ?_⟩
      simp only [step]
      split
      · rename_i other hh ho
        split
        · exact (put_there (fun e => hj ⟨hh, e⟩) _ _).trans hi
        · exact hi
      · exact hi
  | drop j =>
    refine Or.inr ⟨rfl, ?_⟩
    simp only [step]
    split
    · rename_i other hh ho
      split
      · by_cases hj : j = i
        · subst hj
          obtain rfl : other = caller := Option.some.inj (ho.symm.trans hi)
          exact Or.inr (put_here hi _)
        · exact Or.inl ((put_there hj _ _).trans hi)
      · exact Or.inl hi
    · exact Or.inl hi

/-- The call that has the floor can give it up, and the others stay as they are. -/
theorem frees (f : Floor) : ∃ turns, (f.run turns).holder = none ∧
    ∀ i, f.holder ≠ some i → (f.run turns).callers[i]? = f.callers[i]? := by
  cases hh : f.holder with
  | none => exact ⟨[], hh, fun i _ => rfl⟩
  | some j =>
    cases hj : f.callers[j]? with
    | none => exact ⟨[.yield], by simp [step, hh, hj], fun i _ => by simp [step, hh, hj]⟩
    | some other =>
      obtain ⟨n, hn⟩ := run_work hh hj fun _ => true
      refine ⟨List.replicate n .work ++ [.yield], ?_, fun i hi => ?_⟩
      · rw [run_append, hn, run_cons, run_nil, step_yield_put hh hj]
      · have hji : j ≠ i := fun e => hi (by rw [e])
        rw [run_append, hn, run_cons, run_nil, step_yield_put hh hj]
        exact put_there hji _ _

/-- A call that has a task left can come to do it. -/
theorem goes_on (h : f.Sound) (hi : f.callers[i]? = some caller) (hmore : caller.call.tasks ≠ []) :
    ∃ turns turn, (f.run turns).callers[i]? = some caller ∧
      ((f.run turns).step turn).callers[i]? =
        some { caller with call := (caller.call.doNext (f.run turns).controller).2 } := by
  by_cases hh : f.holder = some i
  · refine ⟨[], .work, hi, ?_⟩
    rw [run_nil, step_work hh hi, put_here hi]
  · obtain ⟨turns, free, others⟩ := f.frees
    have hsame := (others i hh).trans hi
    have asleep : caller.call.isAsleep = true := by
      rcases Call.isResting_iff.1 (h.rests i caller hi hh) with hover | hasleep
      · exact absurd hover hmore
      · exact Call.isAsleep_iff.2 hasleep
    refine ⟨turns, .wake i, hsame, ?_⟩
    rw [step_wake free hsame asleep]
    exact put_here hsame _

end Floor

/-! ## Unwinding -/

/-- What a call has done, and what it holds, is as it was. -/
structure Call.Untouched (call new : Call) : Prop where
  ticket : new.ticket = call.ticket
  trace : new.trace = call.trace
  errors : new.errors = call.errors
  answer : new.answer = call.answer

/-- Where a call stands that was told to stop when it stood as `call`, and has done some tasks since. -/
inductive Call.Unwinding (call new : Call) : List Task → Prop
  | under {done rest : List Task} (split : call.tasks = done ++ rest) (more : rest ≠ [])
      (tasks : new.tasks = rest) (untouched : call.Untouched new) : Unwinding call new done
  | reports (tasks : new.tasks = [.finish .stopped]) (untouched : call.Untouched new) :
      Unwinding call new call.tasks
  | ended (k : Ticket) (tasks : new.tasks = []) (answer : new.answer = some (.ran .stopped call.errors))
      (trace : new.trace = .finished k .stopped call.errors :: call.trace) :
      Unwinding call new (call.tasks ++ [.finish .stopped])

/-- A call that was dropped while it unwound. -/
structure Call.Dropped (call new : Call) (done : List Task) : Prop where
  begins : done <+: call.tasks
  tasks : new.tasks = []
  answer : new.answer = call.answer
  trace : new.trace = call.trace

namespace Call.Unwinding

variable {c : Controller} {call new : Call} {done w : List Task}

/-- Who is over already loses nothing by being dropped. -/
theorem drop (h : call.Unwinding new done) :
    call.Unwinding (new.dropped c).2 done ∨ call.Dropped (new.dropped c).2 done := by
  cases h with
  | under split more tasks untouched =>
    exact Or.inr ⟨⟨_, split.symm⟩, rfl, untouched.answer, untouched.trace⟩
  | reports tasks untouched => exact Or.inr ⟨List.prefix_refl _, rfl, untouched.answer, untouched.trace⟩
  | ended k tasks answer trace => exact Or.inl (.ended k rfl answer trace)

/-- One task: a task that looks at the ticket does nothing, the last one ends the run as stopped, and then
it reports. -/
theorem doNext (h : call.Unwinding new done) (ht : call.tasks = w ++ [.conclude])
    (looks : ∀ t ∈ w, t.looks = true) {task : Task} {rest : List Task} (hnew : new.tasks = task :: rest)
    (hs : new.stops c = true) : call.Unwinding (new.doNext c).2 (done ++ [task]) := by
  obtain ⟨k, hk⟩ : ∃ k, new.ticket = some k := by
    cases hticket : new.ticket with
    | none => simp [Call.stops_of_none hticket] at hs
    | some k => exact ⟨k, rfl⟩
  have hst : Call.stops { new with tasks := rest } c = true := hs
  rw [Call.doNext_cons hnew]
  cases h with
  | under split more tasks untouched =>
    obtain rfl := tasks.symm.trans hnew
    have hsplit : (done ++ [task]) ++ rest = w ++ [.conclude] := by simp [← ht, split]
    cases rest with
    | nil =>
      -- the last of the tasks is that behind the last sequence
      obtain ⟨-, rfl⟩ : done = w ∧ task = .conclude := by simpa using hsplit
      have hdone : done ++ [.conclude] = call.tasks := split.symm
      rw [hdone]
      simp only [Call.perform, hst, if_true]
      exact .reports rfl ⟨untouched.ticket, untouched.trace, untouched.errors, untouched.answer⟩
    | cons next rest =>
      have hmem : task ∈ w := by
        obtain ⟨front, last, hrest⟩ : ∃ front last, next :: rest = front ++ [last] :=
          ⟨_, _, (List.dropLast_append_getLast (by simp)).symm⟩
        rw [hrest, ← List.append_assoc] at hsplit
        rw [← (List.append_inj' hsplit rfl).1]
        simp
      rw [Call.perform_of_stops c _ task hst (looks task hmem)]
      exact .under (by simp [split]) (List.cons_ne_nil next rest) rfl
        ⟨untouched.ticket, untouched.trace, untouched.errors, untouched.answer⟩
  | reports tasks untouched =>
    obtain ⟨rfl, rfl⟩ : Task.finish .stopped = task ∧ [] = rest := by simpa using tasks.symm.trans hnew
    refine .ended k ?_ ?_ ?_
    · rfl
    · simp [Call.perform, Call.doFinish, Call.traced, untouched.errors]
    · simp [Call.perform, Call.doFinish, Call.traced, hk, untouched.errors, untouched.trace]
  | ended _ tasks =>
    rw [tasks] at hnew
    cases hnew

end Call.Unwinding

/-- What a call does that is told to stop while it sleeps: the tasks that it has left in their order, and
then it reports that it was stopped. Nothing is put in front of them, and nothing is shown. -/
structure Call.Unwinds (call new : Call) (done : List Task) : Prop where
  begins : done <+: call.tasks ++ [.finish .stopped]
  ends : done = call.tasks ++ [.finish .stopped] ↔ new.answer ≠ none
  silent : new.answer = none → new.trace = call.trace
  reports : new.answer ≠ none → new.answer = some (.ran .stopped call.errors) ∧
    ∃ k, new.trace = .finished k .stopped call.errors :: call.trace

namespace Call.Unwinds

variable {call new : Call} {done : List Task}

/-- Who has not reported has not done its last task. -/
theorem of_unfinished (ha : call.answer = none) (begins : done <+: call.tasks)
    (answer : new.answer = call.answer) (trace : new.trace = call.trace) : call.Unwinds new done := by
  have hnone : new.answer = none := answer.trans ha
  refine ⟨begins.trans (List.prefix_append _ _), ⟨fun hdone => ?_, fun hne => absurd hnone hne⟩,
    fun _ => trace, fun hne => absurd hnone hne⟩
  have hle := begins.length_le
  rw [hdone, List.length_append] at hle
  exact absurd hle (by simp)

theorem of_unwinding (ha : call.answer = none) (h : call.Unwinding new done) : call.Unwinds new done := by
  cases h with
  | under split more tasks untouched =>
    exact of_unfinished ha ⟨_, split.symm⟩ untouched.answer untouched.trace
  | reports tasks untouched => exact of_unfinished ha (List.prefix_refl _) untouched.answer untouched.trace
  | ended k tasks answer trace =>
    have hne : new.answer ≠ none := by simp [answer]
    exact ⟨List.prefix_refl _, ⟨fun _ => hne, fun _ => rfl⟩, fun hnone => absurd hnone hne,
      fun _ => ⟨answer, k, trace⟩⟩

end Call.Unwinds

/-- A run that sleeps has not answered. -/
theorem RunStage.answer_of_asleep {p : Program} {told : Bool} {call : Call} (h : RunStage p told call)
    (asleep : call.isAsleep = true) : call.answer = none := by
  obtain ⟨n, rest, ht⟩ := Call.isAsleep_iff.1 asleep
  cases h with
  | walking _ _ _ at_ | settled _ _ at_ => exact at_.answer
  | asked at_ | refused at_ | halting _ _ _ at_ | closing _ _ at_ | stopped _ at_ | completed at_ | dropped _ at_ =>
    simp [at_.tasks] at ht

namespace Floor

variable {f : Floor} {i : Nat} {p : Program} {call : Call} {w : List Task}

/-- **Unwinding.** A run that has to stop, and has only tasks left that look at the ticket, does these and
reports, whatever turns are taken. The induction is on the turns from behind. -/
theorem unwinding (h : f.Sound) (hi : f.callers[i]? = some ⟨.run p, call⟩)
    (hs : call.stops f.controller = true) (ht : call.tasks = w ++ [.conclude])
    (looks : ∀ t ∈ w, t.looks = true) (turns : List Turn) :
    ∃ new, (f.run turns).callers[i]? = some ⟨.run p, new⟩ ∧
      (new.stops (f.run turns).controller = true ∨ new.tasks = []) ∧
      (call.Unwinding new (f.chores i turns) ∨ call.Dropped new (f.chores i turns)) := by
  induction turns using List.reverseRecOn with
  | nil => exact ⟨call, hi, Or.inl hs, Or.inl (.under rfl (by simp [ht]) rfl ⟨rfl, rfl, rfl, rfl⟩)⟩
  | append_singleton turns turn ih =>
    obtain ⟨old, hold, hstops, hunwinding⟩ := ih
    obtain ⟨new, hnew, -, hnow⟩ := (sound_run h turns).silent hold hstops turn
    rw [run_append, run_cons, run_nil, chores_append]
    refine ⟨new, hnew, hnow, ?_⟩
    simp only [chores, List.append_nil]
    rcases step_chore hold turn with ⟨task, rest, htasks, hchore, -, hnext⟩ | ⟨hchore, hsame | hdropped⟩
    · cases hnew.symm.trans hnext
      rw [hchore]
      rcases hunwinding with hunwinding | hover
      · have hstop : old.stops (f.run turns).controller = true := by
          rcases hstops with hstops | hover
          · exact hstops
          · cases hover.symm.trans htasks
        exact Or.inl (hunwinding.doNext ht looks htasks hstop)
      · cases hover.tasks.symm.trans htasks
    · cases hnew.symm.trans hsame
      rwa [hchore, List.append_nil]
    · cases hnew.symm.trans hdropped
      rw [hchore, List.append_nil]
      rcases hunwinding with hunwinding | hover
      · exact hunwinding.drop
      · exact Or.inr ⟨hover.begins, rfl, hover.answer, hover.trace⟩

/-- Unless it is dropped, a run that unwinds can come to its report from wherever it is. The induction is on
the weight of what is left to it. -/
theorem comes_to_report (h : f.Sound) (hi : f.callers[i]? = some ⟨.run p, call⟩)
    (hs : call.stops f.controller = true) (ht : call.tasks = w ++ [.conclude])
    (looks : ∀ t ∈ w, t.looks = true) (turns : List Turn) {new : Call}
    (hnew : (f.run turns).callers[i]? = some ⟨.run p, new⟩) (hmore : new.tasks ≠ []) :
    ∃ more last, (f.run (turns ++ more)).callers[i]? = some ⟨.run p, last⟩ ∧ last.answer ≠ none := by
  induction hn : new.weight using Nat.strongRecOn generalizing turns new with
  | ind n ih =>
    obtain ⟨task, rest, htasks⟩ := List.exists_cons_of_ne_nil hmore
    obtain ⟨waits, turn, hsame, hnext⟩ := goes_on (sound_run h turns) hnew hmore
    rw [← run_append] at hsame hnext
    obtain ⟨new, hnew', hstops, hunwinding⟩ := unwinding h hi hs ht looks (turns ++ waits)
    cases hsame.symm.trans hnew'
    have hstop : new.stops (f.run (turns ++ waits)).controller = true :=
      hstops.resolve_right hmore
    have hunwinding : call.Unwinding new _ := hunwinding.resolve_right fun hover => hmore hover.tasks
    have hlast : (f.run (turns ++ waits ++ [turn])).callers[i]? =
        some ⟨.run p, (new.doNext (f.run (turns ++ waits)).controller).2⟩ := by
      rw [run_append]
      exact hnext
    have later (more : (new.doNext (f.run (turns ++ waits)).controller).2.tasks ≠ []) :
        ∃ more last, (f.run (turns ++ more)).callers[i]? = some ⟨.run p, last⟩ ∧ last.answer ≠ none := by
      obtain ⟨more, last, hlast, hanswer⟩ :=
        ih _ (hn ▸ Call.weight_doNext_lt htasks) _ hlast more rfl
      exact ⟨waits ++ [turn] ++ more, last, by simpa using hlast, hanswer⟩
    have hgone := hunwinding.doNext ht looks htasks hstop
    generalize f.chores i (turns ++ waits) ++ [task] = done at hgone
    cases hgone with
    | under split more tasks => exact later (by rwa [tasks])
    | reports tasks => exact later (by simp [tasks])
    | ended k tasks answer => exact ⟨waits ++ [turn], _, by simpa using hlast, by simp [answer]⟩

/-- A turn at which a run that sleeps is told to stop leaves the run as it is. -/
theorem same_of_told {turn : Turn} (hi : f.callers[i]? = some ⟨.run p, call⟩) (asleep : call.isAsleep = true)
    (going : f.halts i = false) (told : (f.step turn).halts i = true) :
    (f.step turn).callers[i]? = some ⟨.run p, call⟩ := by
  rcases step_chore hi turn with ⟨task, rest, ht, -, hcontroller, hnext⟩ | ⟨-, hsame | hdropped⟩
  · -- waking does not touch the token
    obtain ⟨n, rest', hpause⟩ := Call.isAsleep_iff.1 asleep
    rw [halts_eq hnext, hcontroller, Call.doNext_cons hpause] at told
    rw [halts_eq hi] at going
    exact absurd (going.symm.trans told) (by simp)
  · exact hsame
  · rw [halts_eq hdropped, Call.stops_of_none rfl] at told
    cases told

/-- **Unwinding inside loops.** Take any calls of a controller and let them take turns in any order, with
fewer than `2 ^ 64` runs (`Floor.tickets_fit`). Let a run sleep that has not been told to stop, and let it
be told to at the next turn. Unless it only waits behind the stop command of its end, it sleeps inside a
block of its program, with some loops around it. Whatever turns are taken then, it does the tasks that it
has left and reports that it was stopped, and shows nothing. Its pauses are the one that it sleeps, one
pacing if that is a wait or the settling of a command, and one pacing for each of the loops. Unless it is
dropped, it can always come to its report. -/
theorem stopped_run_unwinds (channel : Channel) (log : EventLog) (pacing : Duration) (before : List Turn)
    (turn : Turn) (i : Nat) (p : Program) (call : Call)
    (hi : ((Floor.new (.new channel log pacing)).run before).callers[i]? = some ⟨.run p, call⟩)
    (asleep : call.isAsleep = true)
    (going : ((Floor.new (.new channel log pacing)).run before).halts i = false)
    (told : (((Floor.new (.new channel log pacing)).run before).step turn).halts i = true) :
    let f := ((Floor.new (.new channel log pacing)).run before).step turn
    (∃ n, call.tasks = [.pause n, .finish .completed]) ∨
    ∃ (place : Place p) (n owed : Nat), place.Sleeps channel.settle pacing n owed ∧
      call.tasks = place.asleep pacing n owed ∧
      ∀ after, ∃ new, (f.run after).callers[i]? = some ⟨.run p, new⟩ ∧
        call.Unwinds new (f.chores i after) ∧
        (f.chores i after).filter (Task.isPause fun _ => true) <+:
          .pause n :: List.replicate (owed + place.depth) (.pause pacing.nanoseconds) ∧
        (new.answer ≠ none → (f.chores i after).filter (Task.isPause fun _ => true) =
          .pause n :: List.replicate (owed + place.depth) (.pause pacing.nanoseconds)) ∧
        (new.tasks ≠ [] → ∃ more last,
          (f.run (after ++ more)).callers[i]? = some ⟨.run p, last⟩ ∧ last.answer ≠ none) := by
  intro f
  have hsound := sound_run (sound_new channel log pacing) before
  have hstanding := standing_run (f := Floor.new (.new channel log pacing))
    (by intro i p call h; simp [Floor.new] at h) (sound_new channel log pacing) before
  have hstands : Stands p channel.settle pacing call.tasks := by
    have := hstanding i p call hi (by rw [← halts_eq hi]; exact going)
    rwa [Controller.fixed_settle.run, Controller.fixed_pacing.run] at this
  obtain ⟨n, rest, hasleep⟩ := Call.isAsleep_iff.1 asleep
  generalize htasks : call.tasks = tasks at hstands
  cases hstands with
  | @sleeps place n owed sleep =>
    refine Or.inr ⟨place, n, owed, sleep, rfl, fun after => ?_⟩
    have hsame := same_of_told hi asleep going told
    have hs : call.stops f.controller = true := by rw [← halts_eq hsame]; exact told
    have hnone : call.answer = none :=
      RunStage.answer_of_asleep ((hsound.step turn).stage i _ hsame) asleep
    obtain ⟨w, hw, looks⟩ := place.asleep_looks pacing n owed
    obtain ⟨new, hnew, -, hunwinding⟩ :=
      unwinding (hsound.step turn) hsame hs (htasks.trans hw) looks after
    have hunwinds : call.Unwinds new (f.chores i after) := by
      rcases hunwinding with hunwinding | hover
      · exact .of_unwinding hnone hunwinding
      · exact .of_unfinished hnone hover.begins hover.answer hover.trace
    have hpauses : (call.tasks ++ [Task.finish .stopped]).filter (Task.isPause fun _ => true) =
        .pause n :: List.replicate (owed + place.depth) (.pause pacing.nanoseconds) := by
      rw [htasks, List.filter_append, place.pauses_asleep]
      exact List.append_nil _
    refine ⟨new, hnew, hunwinds, ?_, fun hreported => ?_, fun hmore => ?_⟩
    · rw [← hpauses]
      exact hunwinds.begins.filter _
    · rw [hunwinds.ends.2 hreported, hpauses]
    · exact comes_to_report (hsound.step turn) hsame hs (htasks.trans hw) looks after hnew hmore
  | settles n => exact Or.inl ⟨n, rfl⟩
  | asked | sequences | chain | head | sends | turns | conclude | closes | finishes | ended =>
    rw [hasleep] at htasks
    cases htasks

/-- A run that waits for a second inside two loops is stopped. It sleeps out the second and then paces three
times: for the wait, for the inner loop and for the outer one. -/
theorem stopped_run_unwinds_in_two_loops :
    let p := Program.ofChains [.repeatFixed 3 [.repeatFixed 2 [.wait (.ofNat 1), .stop]]]
    let rest := List.replicate 10 .work ++ [.yield, .ask .stop]
    let f := ((Floor.new (.new (.recorder (.new 50)) (.new 8) 50)).run (.ask (.run p) :: rest)).step .work
    let after := [.work, .yield, .wake 0] ++ List.replicate 11 .work
    ∃ (place : Place p) (new : Call), place.depth = 2 ∧ (f.run after).callers[0]? = some ⟨.run p, new⟩ ∧
      new.answer = some (.ran .stopped 0) ∧
      (f.chores 0 after).filter (Task.isPause fun _ => true) =
        .pause 1000000000 :: List.replicate 3 (.pause 50000000) := by
  intro p rest f after
  let g := Floor.new (.new (.recorder (.new 50)) (.new 8) 50)
  have hfirst : (g.step (.ask (.run p))).callers[0]? = some ⟨.run p, .run p⟩ := rfl
  obtain ⟨⟨request, call⟩, hi, hr⟩ := run_caller_of hfirst rest
  obtain rfl : request = .run p := hr
  rw [← run_cons] at hi
  have hfront : ((g.run (.ask (.run p) :: rest)).front? 0).any (Task.isPause (· == 1000000000)) = true := by
    decide +kernel
  rw [front?_eq hi] at hfront
  obtain ⟨more, htasks⟩ : ∃ more, call.tasks = .pause 1000000000 :: more := by
    cases ht : call.tasks with
    | nil => simp [ht] at hfront
    | cons task more => cases task <;> simp_all [Task.isPause]
  have hlength : (g.run (.ask (.run p) :: rest)).callers[0]?.map (·.call.tasks.length) = some 11 := by
    decide +kernel
  rw [hi] at hlength
  rcases stopped_run_unwinds (.recorder (.new 50)) (.new 8) 50 (.ask (.run p) :: rest) .work 0 p call hi
    (Call.isAsleep_iff.2 ⟨_, _, htasks⟩) (by decide +kernel) (by decide +kernel) with
    ⟨n, hlast⟩ | ⟨place, n, owed, sleep, hasleep, hafter⟩
  · simp [hlast] at hlength
  · obtain ⟨new, hnew, hunwinds, -, hpauses, -⟩ := hafter after
    have hanswer : (f.run after).callers[0]?.bind (·.call.answer) = some (.ran .stopped 0) := by decide +kernel
    rw [hnew] at hanswer
    obtain rfl : 1000000000 = n := by
      rw [htasks] at hasleep
      cases hasleep
      rfl
    have hcount : ((f.chores 0 after).filter (Task.isPause fun _ => true)).length = 4 := by decide +kernel
    have hpauses := hpauses (by simp [show new.answer = some (.ran .stopped 0) from hanswer])
    have hsum : owed + place.depth = 3 := by
      rw [hpauses] at hcount
      simpa using hcount
    rw [hsum] at hpauses
    refine ⟨place, new, ?_, hnew, hanswer, hpauses⟩
    cases sleep with
    | wait => omega

end Floor

end BlockPilot
