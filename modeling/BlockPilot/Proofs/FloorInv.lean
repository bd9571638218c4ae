import BlockPilot.Proofs.Floor

/-!
# What holds at every turn

`Floor.Sound` holds whatever turns are taken (`Floor.sound_run`): the tickets that the calls hold own
the token, a call without the floor rests, and every call stands where a call of its kind can stand.
A turn touches the token in five ways only (`Handed`), and each of them keeps what the tickets own.
-/

namespace BlockPilot

/-! ## How tickets change hands -/

/-- How a call changes the token and what it holds. -/
inductive Handed (t t' : Token) : Option Ticket → Option Ticket → Prop
  | kept {k : Option Ticket} (h : t' = t) : Handed t t' k k
  | stop {k : Option Ticket} (h : t' = t.requestStop) : Handed t t' k k
  | emergency {k : Option Ticket} (h : t' = t.requestEmergencyStop) : Handed t t' k k
  | taken (k : Ticket) (h : t.begin? = some (k, t')) : Handed t t' none (some k)
  | back (k : Ticket) (h : t' = (t.release k).2) : Handed t t' (some k) none

namespace Handed

variable {t t' : Token} {k k' : Option Ticket}

theorem later (h : Handed t t' k k') : Token.Later t t' := by
  cases h with
  | kept h => exact h ▸ Token.Later.refl t
  | stop h => exact h ▸ Token.Later.requestStop t
  | emergency h => exact h ▸ Token.Later.requestEmergencyStop t
  | taken k h => exact Token.Later.of_begin h
  | back k h => exact h ▸ Token.Later.release t k

theorem owned (h : Handed t t' k k') {rest : List Ticket} (ho : t.Owned (k.toList ++ rest)) :
    t'.Owned (k'.toList ++ rest) := by
  cases h with
  | kept h => exact h ▸ ho
  | stop h => exact h ▸ ho.requestStop
  | emergency h => exact h ▸ ho.requestEmergencyStop
  | taken k h => exact ho.begin h
  | back k h => exact h ▸ ho.release

end Handed

namespace Call

theorem handed_quiet {c : Controller} {call : Call} {task : Task} {rest : List Task}
    (ht : call.tasks = task :: rest) (hb : ∀ p, task ≠ .begin p) (hf : ∀ o, task ≠ .finish o)
    (hr : ∀ s, task ≠ .raise s) :
    Handed c.token (call.doNext c).1.token call.ticket (call.doNext c).2.ticket := by
  obtain ⟨hq, hk⟩ := perform_quiet c { call with tasks := rest } hb hf hr
  rw [doNext_cons ht]
  simp only [traced, hk, Controller.token_foldl hq]
  exact .kept rfl

theorem Move.handed {c : Controller} {call : Call} {r : Controller × Call} (h : call.Move c r)
    (hb : ∀ p rest, call.tasks = .begin p :: rest → call.ticket = none) :
    Handed c.token r.1.token call.ticket r.2.ticket := by
  cases h with
  | drop ha =>
    simp only [dropped]
    cases hk : call.ticket with
    | none => exact .kept rfl
    | some k => exact .back k rfl
  | next =>
    cases ht : call.tasks with
    | nil =>
      rw [doNext_nil ht]
      exact .kept rfl
    | cons task rest =>
      cases task with
      | begin p =>
        rw [hb p rest ht, doNext_cons ht]
        cases hg : c.token.begin? with
        | none =>
          simp only [perform, doBegin, hg, traced, hb p rest ht]
          exact .kept rfl
        | some r =>
          obtain ⟨k, t'⟩ := r
          simp only [perform, doBegin, hg, traced, push, List.foldl_cons, List.foldl_nil,
            Controller.apply, Controller.beginRun]
          exact .taken k hg
      | finish o =>
        rw [doNext_cons ht]
        simp only [perform, doFinish, traced]
        cases hk : call.ticket with
        | none => exact .kept rfl
        | some k => exact .back k rfl
      | raise s =>
        rw [doNext_cons ht]
        cases s with
        | none => exact .kept rfl
        | cooperative => exact .stop rfl
        | emergency => exact .emergency rfl
      | pause | emit | send | head | chain | loop | sequences | conclude | probe | verdict =>
        exact handed_quiet ht (by simp) (by simp) (by simp)

end Call

/-! ## Calls beside the runs -/

/-- The command that stops the robot. -/
def Task.halt : Task := .send ⟨.stop, none⟩

/-- Whether a task is one of a stop or of a connection test. -/
def Task.isAside : Task → Bool
  | .pause _ | .emit _ | .send _ | .raise _ | .probe | .verdict => true
  | _ => false

/-- Whether a task keeps the robot moving, or keeps a run from stopping it. -/
def Task.drives : Task → Bool
  | .send command => command != ⟨.stop, none⟩
  | .raise _ => true
  | _ => false

/-- Behind every task that drives comes a stop command. -/
def Covered : List Task → Prop
  | [] => True
  | task :: rest => (task.drives = true → Task.halt ∈ rest) ∧ Covered rest

theorem Covered.append {a b : List Task} (ha : Covered a) (hb : Covered b) : Covered (a ++ b) := by
  induction a with
  | nil => exact hb
  | cons task a ih => exact ⟨fun hd => List.mem_append_left b (ha.1 hd), ih ha.2⟩

/-- Where a stop or a connection test stands. -/
structure Aside (call : Call) : Prop where
  ticket : call.ticket = none
  tasks : ∀ t ∈ call.tasks, t.isAside = true
  covered : Covered call.tasks

namespace Aside

theorem stop : Aside .stop := ⟨rfl, by simp [Call.stop, Call.ofTasks, Task.isAside], by
  simp [Call.stop, Call.ofTasks, Covered, Task.drives, Task.halt]⟩

theorem emergencyStop : Aside .emergencyStop :=
  ⟨rfl, by simp [Call.emergencyStop, Call.ofTasks, Task.isAside], by
    simp [Call.emergencyStop, Call.ofTasks, Covered, Task.drives, Task.halt]⟩

theorem testConnection : Aside .testConnection :=
  ⟨rfl, by simp [Call.testConnection, Call.ofTasks, Task.isAside], by
    simp [Call.testConnection, Call.ofTasks, Covered, Task.drives]⟩

/-- What a task of such a call puts in front of the rest is again of such a call. -/
theorem more (c : Controller) (call : Call) {task : Task} (ht : task.isAside = true) :
    ∃ more, (Call.perform c call task).2.tasks = more ++ call.tasks ∧
      (Call.perform c call task).2.ticket = call.ticket ∧ (∀ t ∈ more, t.isAside = true) ∧
      Covered more := by
  cases task with
  | pause | emit | raise | verdict => exact ⟨[], rfl, rfl, by simp, trivial⟩
  | send command =>
    simp only [Call.perform, Call.doSend]
    split
    · exact ⟨_, rfl, rfl, by simp [Task.isAside], by simp [Covered, Task.drives]⟩
    · exact ⟨[], rfl, rfl, by simp, trivial⟩
  | probe =>
    simp only [Call.perform, Call.doProbe]
    split
    · exact ⟨[], rfl, rfl, by simp, trivial⟩
    · exact ⟨_, rfl, rfl, by simp [Task.isAside], by simp [Covered, Task.drives, Task.halt]⟩
  | head | chain | loop | sequences | begin | conclude | finish => simp [Task.isAside] at ht

theorem doNext {c : Controller} {call : Call} (h : Aside call) : Aside (call.doNext c).2 := by
  cases ht : call.tasks with
  | nil => rwa [Call.doNext_nil ht]
  | cons task rest =>
    have hall := h.tasks
    have hcov := h.covered
    rw [ht] at hall hcov
    obtain ⟨more, hm, hk, ha, hc⟩ :=
      more c { call with tasks := rest } (hall task (by simp))
    have htasks : (call.doNext c).2.tasks = more ++ rest := by simp [Call.doNext_cons ht, Call.traced, hm]
    have hticket : (call.doNext c).2.ticket = call.ticket := by
      rw [Call.doNext_cons ht]
      exact hk
    refine ⟨hticket.trans h.ticket, ?_, ?_⟩
    · intro t hmem
      rw [htasks] at hmem
      rcases List.mem_append.1 hmem with hmem | hmem
      · exact ha t hmem
      · exact hall t (by simp [hmem])
    · rw [htasks]
      exact hc.append hcov.2

theorem dropped {c : Controller} {call : Call} : Aside (call.dropped c).2 :=
  ⟨rfl, by simp [Call.dropped], trivial⟩

end Aside

/-! ## Every call stands where it can -/

/-- Where a call of its kind stands. -/
def Caller.Stage (c : Controller) (caller : Caller) : Prop :=
  match caller.request with
  | .run p => RunStage p (caller.call.stops c) caller.call
  | .stop | .emergencyStop | .testConnection => Aside caller.call

namespace Caller.Stage

variable {c c' : Controller} {caller : Caller} {r : Controller × Call}

theorem asked (request : Request) : Caller.Stage c ⟨request, request.call⟩ := by
  cases request with
  | run p => exact RunStage.asked ⟨rfl, rfl, rfl, Plays.nil, rfl⟩
  | stop => exact Aside.stop
  | emergencyStop => exact Aside.emergencyStop
  | testConnection => exact Aside.testConnection

/-- Only a run that holds no ticket yet begins. -/
theorem ticket_of_begin (h : caller.Stage c) {p : Program} {rest : List Task}
    (ht : caller.call.tasks = .begin p :: rest) : caller.call.ticket = none := by
  obtain ⟨request, call⟩ := caller
  have aside (h : Aside call) : call.ticket = none := h.ticket
  cases request with
  | stop | emergencyStop | testConnection => exact aside h
  | run q =>
    have h : RunStage q (call.stops c) call := h
    have hf : rest = [] ∧ p = q ∧ call.ticket = none := by
      simpa [Task.looks, Task.acts] using h.front ht
    exact hf.2.2

/-- A call that rests stands well whatever becomes of the token. -/
theorem later (h : caller.Stage c) (hr : caller.call.isResting = true)
    (hl : Token.Later c.token c'.token)
    (hk : ∀ k, caller.call.ticket = some k → k.generation ≤ c.token.generation) : caller.Stage c' := by
  obtain ⟨request, call⟩ := caller
  cases request with
  | stop | emergencyStop | testConnection => exact h
  | run p =>
    have h : RunStage p (call.stops c) call := h
    show RunStage p (call.stops c') call
    rcases Call.isResting_iff.1 hr with ht | ⟨n, rest, ht⟩
    · exact h.of_over ht _
    · cases hs : call.stops c with
      | false =>
        cases hs' : call.stops c' with
        | false => rwa [hs] at h
        | true =>
          rw [hs] at h
          exact h.tell ht
      | true =>
        have hs' : call.stops c' = true := by
          cases hkt : call.ticket with
          | none => simp [Call.stops_of_none hkt] at hs
          | some k =>
            rw [Call.stops_of_some hkt] at hs ⊢
            exact hl.stops (hk k hkt) hs
        rw [hs']
        rwa [hs] at h

/-- The token alone tells a call whether to stop. -/
theorem of_token (h : caller.Stage c) (ht : c'.token = c.token) : caller.Stage c' := by
  obtain ⟨request, call⟩ := caller
  cases request with
  | stop | emergencyStop | testConnection => exact h
  | run p =>
    have hs : call.stops c' = call.stops c := by simp [Call.stops, ht]
    show RunStage p (call.stops c') call
    rw [hs]
    exact h

end Caller.Stage

/-- A run that is dropped is over. -/
theorem RunStage.dropped_of_asleep {p : Program} {told : Bool} {c : Controller} {call : Call}
    (h : RunStage p told call) (hs : call.isAsleep = true) (told' : Bool) :
    RunStage p told' (call.dropped c).2 := by
  obtain ⟨n, rest, ht⟩ := Call.isAsleep_iff.1 hs
  cases h with
  | walking k w nodes at_ => exact .dropped _ ⟨rfl, rfl, at_.answer, at_.shown, at_.errors⟩
  | settled k pauses at_ => exact .dropped _ ⟨rfl, rfl, at_.answer, at_.shown, at_.errors⟩
  | asked at_ | refused at_ | halting _ _ _ at_ | closing _ _ at_ | stopped _ at_ | completed at_ | dropped _ at_ =>
    simp [at_.tasks] at ht

theorem Caller.Stage.move {c : Controller} {caller : Caller} {r : Controller × Call}
    (h : caller.Stage c) (m : caller.call.Move c r) :
    Caller.Stage r.1 { caller with call := r.2 } := by
  obtain ⟨request, call⟩ := caller
  cases request with
  | stop | emergencyStop | testConnection =>
    cases m with
    | next => exact Aside.doNext h
    | drop => exact Aside.dropped (c := c)
  | run p =>
    cases m with
    | next =>
      obtain ⟨hn, hs | ho⟩ := RunStage.doNext (c := c) h
      · show RunStage p ((call.doNext c).2.stops (call.doNext c).1) _
        rwa [hs]
      · exact hn.of_over ho _
    | drop hd => exact RunStage.dropped_of_asleep (c := c) h hd _

/-! ## The invariant -/

theorem filterMap_cons_toList {α β : Type} (f : α → Option β) (x : α) (l : List α) :
    (x :: l).filterMap f = (f x).toList ++ l.filterMap f := by
  cases h : f x <;> simp [h]

namespace Floor

structure Sound (f : Floor) : Prop where
  owned : f.controller.token.Owned f.tickets
  rests : ∀ (j : Nat) (caller : Caller), f.callers[j]? = some caller → f.holder ≠ some j →
    caller.call.isResting = true
  stage : ∀ (j : Nat) (caller : Caller), f.callers[j]? = some caller → caller.Stage f.controller

/-- The tickets are those of one call and of the others, whatever becomes of the one. -/
theorem tickets_focus {callers : List Caller} {i : Nat} {caller : Caller}
    (h : callers[i]? = some caller) :
    ∃ others, (callers.filterMap (·.call.ticket)).Perm (caller.call.ticket.toList ++ others) ∧
      ∀ new : Caller, ((callers.set i new).filterMap (·.call.ticket)).Perm
        (new.call.ticket.toList ++ others) := by
  obtain ⟨hi, rfl⟩ := List.getElem?_eq_some_iff.1 h
  refine ⟨(callers.eraseIdx i).filterMap (·.call.ticket), ?_, fun new => ?_⟩
  · rw [← filterMap_cons_toList (fun x : Caller => x.call.ticket)]
    exact (List.getElem_cons_eraseIdx_perm hi).symm.filterMap _
  · have hn : i < (callers.set i new).length := by simpa using hi
    have hp := List.getElem_cons_eraseIdx_perm hn
    rw [List.getElem_set_self, List.eraseIdx_set_eq] at hp
    rw [← filterMap_cons_toList (fun x : Caller => x.call.ticket)]
    exact hp.symm.filterMap _

theorem mem_tickets {f : Floor} {j : Nat} {caller : Caller} {k : Ticket}
    (h : f.callers[j]? = some caller) (hk : caller.call.ticket = some k) : k ∈ f.tickets :=
  List.mem_filterMap.2 ⟨caller, List.mem_of_getElem? h, hk⟩

namespace Sound

variable {f g : Floor}

/-- A move of one call: it stands well behind it, and so do the others, which rest. -/
theorem moved {i : Nat} {caller : Caller} {r : Controller × Call} (h : f.Sound)
    (here : f.callers[i]? = some caller) (move : caller.call.Move f.controller r)
    (floor : f.holder = some i ∨ f.holder = none) (controller : g.controller = r.1)
    (callers : g.callers = f.callers.set i { caller with call := r.2 })
    (holder : g.holder = some i ∨ g.holder = none ∧ r.2.tasks = []) : g.Sound := by
  have hi := (List.getElem?_eq_some_iff.1 here).1
  have handed := move.handed fun p rest ht => (h.stage i caller here).ticket_of_begin ht
  have others {j : Nat} {x : Caller} (hx : g.callers[j]? = some x) (hj : i ≠ j) :
      f.callers[j]? = some x ∧ x.call.isResting = true := by
    rw [callers, List.getElem?_set_ne hj] at hx
    refine ⟨hx, h.rests j x hx fun e => ?_⟩
    rcases floor with hf | hf
    · exact hj (by simpa [hf] using e)
    · simp [hf] at e
  refine ⟨?_, ?_, ?_⟩
  · obtain ⟨rest, hp, hs⟩ := tickets_focus here
    have := handed.owned (h.owned.perm hp)
    rw [← controller] at this
    rw [tickets, callers]
    exact this.perm (hs { caller with call := r.2 }).symm
  · intro j x hx hj
    by_cases hij : i = j
    · subst hij
      rw [callers, List.getElem?_set_self hi] at hx
      cases hx
      rcases holder with hg | ⟨-, ho⟩
      · exact absurd hg hj
      · exact Call.isResting_iff.2 (Or.inl ho)
    · exact (others hx hij).2
  · intro j x hx
    by_cases hij : i = j
    · subst hij
      rw [callers, List.getElem?_set_self hi] at hx
      cases hx
      rw [controller]
      exact (h.stage i caller here).move move
    · obtain ⟨hx', hr⟩ := others hx hij
      refine (h.stage j x hx').later hr (by rw [controller]; exact handed.later) fun k hk => ?_
      exact h.owned.known k (mem_tickets hx' hk)

theorem step (h : f.Sound) (turn : Turn) : (f.step turn).Sound := by
  rcases step_cases f turn with ⟨callers, token, -, holder⟩ | ⟨request, free, eq⟩ |
    ⟨i, caller, r, here, move, -, floor, controller, callers, holder⟩
  · refine ⟨?_, ?_, ?_⟩
    · rw [token, tickets, callers]
      exact h.owned
    · intro j x hx hj
      rw [callers] at hx
      rcases holder j x hx hj with hf | hr
      · exact h.rests j x hx hf
      · exact hr
    · intro j x hx
      rw [callers] at hx
      exact (h.stage j x hx).of_token token
  · rw [eq]
    have new : request.call.ticket = none := by cases request <;> rfl
    have old {j : Nat} {x : Caller} (hx : (f.callers ++ [⟨request, request.call⟩])[j]? = some x) :
        f.callers[j]? = some x ∨ j = f.callers.length ∧ x = ⟨request, request.call⟩ := by
      rcases Nat.lt_or_ge j f.callers.length with hj | hj
      · exact Or.inl (by rwa [List.getElem?_append_left hj] at hx)
      · rw [List.getElem?_append_right hj, List.getElem?_singleton] at hx
        split at hx
        · exact Or.inr ⟨by omega, by simpa using hx.symm⟩
        · cases hx
    refine ⟨?_, ?_, ?_⟩
    · simpa [tickets, new] using h.owned
    · intro j x hx hj
      rcases old hx with hx | ⟨rfl, -⟩
      · exact h.rests j x hx (by simp [free])
      · simp at hj
    · intro j x hx
      rcases old hx with hx | ⟨-, rfl⟩
      · exact h.stage j x hx
      · exact Caller.Stage.asked request
  · refine h.moved here move ?_ controller callers holder
    rcases floor with ⟨-, floor⟩ | ⟨floor, -⟩
    · exact Or.inl floor
    · exact Or.inr floor

end Sound

theorem sound_new (channel : Channel) (log : EventLog) (pacing : Duration) :
    (Floor.new (.new channel log pacing)).Sound :=
  ⟨Token.Owned.new, by simp [Floor.new], by simp [Floor.new]⟩

/-- **Soundness.** Whatever turns are taken, the tickets that are held own the token, the calls
without the floor rest, and every call stands where it can. -/
theorem sound_run {f : Floor} (h : f.Sound) (turns : List Turn) : (f.run turns).Sound := by
  induction turns generalizing f with
  | nil => exact h
  | cons turn turns ih => exact ih (h.step turn)

end Floor

end BlockPilot
