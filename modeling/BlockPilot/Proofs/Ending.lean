import BlockPilot.Proofs.FloorInv
import Mathlib.Data.List.Induction

/-!
# How a run ends

A run decides how it ends at one moment, behind its last sequence: it reports that it is complete if
it does not have to stop then, and else that it was stopped (`Floor.decided`).
-/

namespace BlockPilot

/-- A call has reported an outcome, or is about to. -/
def Call.Ends (outcome : Outcome) (call : Call) : Prop :=
  .finish outcome ∈ call.tasks ∨ ∃ errors, call.answer = some (.ran outcome errors)

namespace Call

variable {c : Controller} {call : Call} {outcome : Outcome}

theorem Ends.push {more : List Task} (h : (call.push more).Ends outcome)
    (hm : .finish outcome ∉ more) : call.Ends outcome := by
  rcases h with h | h
  · exact Or.inl ((List.mem_append.1 h).resolve_left hm)
  · exact Or.inr h

/-- Only the end behind the last sequence decides the outcome of a run that has begun. -/
theorem perform_ends (call : Call) {task : Task} (ho : outcome ≠ .alreadyRunning)
    (h : (perform c call task).2.Ends outcome) :
    call.Ends outcome ∨ task = .finish outcome ∨
      task = .conclude ∧ (outcome = .completed ↔ call.stops c = false) := by
  cases hp : task.isPlain with
  | true =>
    have hplain := Plain.perform c call hp
    obtain ⟨more, hm, hpart⟩ := hplain.tasks
    left
    rcases h with h | ⟨errors, h⟩
    · rw [hm] at h
      refine Or.inl ((List.mem_append.1 h).resolve_left fun h => ?_)
      cases hpart _ h
    · rcases hplain.answer with ha | ⟨reachable, ha⟩
      · exact Or.inr ⟨errors, ha.symm.trans h⟩
      · cases ha.symm.trans h
  | false =>
    cases task with
    | raise => exact Or.inl h
    | send command =>
      simp only [perform, doSend] at h
      split at h
      · exact Or.inl (h.push (by simp))
      · exact Or.inl h
    | begin p =>
      simp only [perform, doBegin] at h
      split at h
      · rcases h with h | ⟨errors, h⟩
        · exact Or.inl (Or.inl h)
        · simp only [Option.some.injEq, Answer.ran.injEq] at h
          exact absurd h.1.symm ho
      · exact Or.inl (h.push (by simp))
    | conclude =>
      simp only [perform] at h
      split at h
      · rename_i hs
        by_cases hm : outcome = .stopped
        · exact Or.inr (Or.inr ⟨rfl, by simp [hm, hs]⟩)
        · exact Or.inl (h.push (by simpa using hm))
      · rename_i hs
        by_cases hm : outcome = .completed
        · exact Or.inr (Or.inr ⟨rfl, by simp [hm, hs]⟩)
        · exact Or.inl (h.push (by simpa using hm))
    | finish o =>
      rcases h with h | ⟨errors, h⟩
      · exact Or.inl (Or.inl h)
      · simp only [perform, doFinish, Option.some.injEq, Answer.ran.injEq] at h
        exact Or.inr (Or.inl (by rw [h.1]))
    | pause | emit | head | chain | loop | sequences | probe | verdict => cases hp

end Call

/-- A run decides about its outcome behind its last sequence. -/
theorem RunStage.ends_doNext {p : Program} {told : Bool} {c : Controller} {call : Call}
    {outcome : Outcome} (h : RunStage p told call) (ho : outcome ≠ .alreadyRunning)
    (he : (call.doNext c).2.Ends outcome) :
    call.Ends outcome ∨ call.tasks = [.conclude] ∧ (outcome = .completed ↔ call.stops c = false) := by
  cases ht : call.tasks with
  | nil =>
    rw [Call.doNext_nil ht] at he
    exact Or.inl he
  | cons task rest =>
    rw [Call.doNext_cons ht] at he
    rcases Call.perform_ends { call with tasks := rest } ho he with he | rfl | ⟨rfl, hs⟩
    · left
      rcases he with he | he
      · exact Or.inl (by rw [ht]; exact List.mem_cons_of_mem _ he)
      · exact Or.inr he
    · exact Or.inl (Or.inl (by simp [ht]))
    · have hr : rest = [] := by simpa [Task.looks, Task.acts] using h.front ht
      exact Or.inr ⟨by rw [hr], hs⟩

namespace Floor

/-- **The decision.** A run that reports that it is complete or that it was stopped has done its
last sequence at one of the turns, and it reports that it is complete exactly if it did not have to
stop then. -/
theorem decided {f : Floor} (h : f.Sound) (hn : f.callers = []) (turns : List Turn) {i : Nat}
    {p : Program} {call : Call} {outcome : Outcome}
    (hi : (f.run turns).callers[i]? = some ⟨.run p, call⟩) (he : call.Ends outcome)
    (ho : outcome ≠ .alreadyRunning) :
    ∃ before after last, turns = before ++ .work :: after ∧ (f.run before).holder = some i ∧
      (f.run before).callers[i]? = some ⟨.run p, last⟩ ∧ last.tasks = [.conclude] ∧
      (outcome = .completed ↔ last.stops (f.run before).controller = false) := by
  induction turns using List.reverseRecOn generalizing call with
  | nil => simp [hn] at hi
  | append_singleton turns turn ih =>
    -- what holds before the last turn holds with that turn behind it
    have earlier {old : Call} (hold : (f.run turns).callers[i]? = some ⟨.run p, old⟩)
        (he : old.Ends outcome) :
        ∃ before after last, turns ++ [turn] = before ++ .work :: after ∧
          (f.run before).holder = some i ∧ (f.run before).callers[i]? = some ⟨.run p, last⟩ ∧
          last.tasks = [.conclude] ∧
          (outcome = .completed ↔ last.stops (f.run before).controller = false) := by
      obtain ⟨before, after, last, rfl, hl⟩ := ih hold he
      exact ⟨before, after ++ [turn], last, by simp, hl⟩
    have hstage := ((sound_run h turns).stage i · )
    rw [run_append, run_cons, run_nil] at hi
    rcases step_caller hi with hnew | ⟨⟨request, old⟩, hold, hr, hcall⟩
    · simp only [Caller.mk.injEq, true_and] at hnew
      subst hnew
      simp [Call.Ends, Request.call, Call.run, Call.ofTasks] at he
    · obtain rfl : request = .run p := hr
      have hrun : RunStage p (old.stops (f.run turns).controller) old := hstage _ hold
      rcases hcall with hcall | ⟨r, hmove, -, hcall, hwhen⟩
      · obtain rfl : call = old := hcall
        exact earlier hold he
      · obtain rfl : call = r.2 := hcall
        cases hmove with
        | drop =>
          refine earlier hold ?_
          rcases he with he | he
          · simp [Call.dropped] at he
          · exact Or.inr he
        | next =>
          rcases hrun.ends_doNext ho he with he | ⟨hlast, hs⟩
          · exact earlier hold he
          · obtain ⟨rfl, hh⟩ : turn = .work ∧ (f.run turns).holder = some i := by
              rcases hwhen with hwhen | ha
              · exact hwhen
              · simp [Call.isAsleep, hlast] at ha
            exact ⟨turns, [], old, rfl, hh, hold, hlast, hs⟩

end Floor

end BlockPilot
