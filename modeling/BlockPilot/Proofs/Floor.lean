import BlockPilot.Proofs.RunStage

/-!
# Calls that take turns

Any number of calls of one controller go on side by side. One of them at most has the *floor*: it
does its tasks one after the other and can give the floor up only at a pause or at its end. Then a
new call can begin, or any call that sleeps can wake, in any order (`Turn`). A call that sleeps can
also be dropped, and at any time the clock moves or the channel changes whether it takes commands.

What a turn does to the calls is said once (`Floor.step_cases`).
-/

namespace BlockPilot

/-! ## Turns -/

/-- What the controller can be asked for. -/
inductive Request where
  | run (p : Program)
  | stop
  | emergencyStop
  | testConnection

def Request.call : Request → Call
  | .run p => .run p
  | .stop => .stop
  | .emergencyStop => .emergencyStop
  | .testConnection => .testConnection

/-- A call, and what was asked for. -/
structure Caller where
  request : Request
  call : Call

namespace Call

/-- Whether a call sleeps. -/
def isAsleep (call : Call) : Bool :=
  match call.tasks with
  | .pause _ :: _ => true
  | _ => false

/-- Whether a call sleeps or is over. -/
def isResting (call : Call) : Bool :=
  call.tasks.isEmpty || call.isAsleep

/-- Drops a call, which gives its ticket back. -/
def dropped (c : Controller) (call : Call) : Controller × Call :=
  (match call.ticket with
    | some ticket => c.release ticket
    | none => c,
    { call with tasks := [], ticket := none })

end Call

/-- The calls of a controller in the order of their beginning, and the number of the one that has
the floor. -/
structure Floor where
  controller : Controller
  callers : List Caller
  holder : Option Nat

inductive Turn where
  /-- A new call takes the floor. -/
  | ask (request : Request)
  /-- The call that has the floor does a task; a pause that it does is none. -/
  | work
  /-- The call that has the floor gives it up, if it rests. -/
  | yield
  /-- A call that sleeps takes the floor. -/
  | wake (i : Nat)
  /-- A call that sleeps is dropped. -/
  | drop (i : Nat)
  /-- A recorder takes commands from now on, or refuses them. -/
  | reach (reachable : Bool)
  | clock (time : Duration)

namespace Floor

def new (c : Controller) : Floor := ⟨c, [], none⟩

/-- The floor after a call has changed, and the controller with it. -/
def put (f : Floor) (i : Nat) (caller : Caller) (r : Controller × Call) : Floor :=
  { f with controller := r.1, callers := f.callers.set i { caller with call := r.2 } }

def step (f : Floor) : Turn → Floor
  | .ask request => match f.holder with
    | none => ⟨f.controller, f.callers ++ [⟨request, request.call⟩], some f.callers.length⟩
    | some _ => f
  | .work => match f.holder with
    | none => f
    | some i => match f.callers[i]? with
      | none => f
      | some caller => f.put i caller (caller.call.doNext f.controller)
  | .yield => match f.holder with
    | none => f
    | some i => if f.callers[i]?.all (·.call.isResting) then { f with holder := none } else f
  | .wake i => match f.holder, f.callers[i]? with
    | none, some caller =>
      if caller.call.isAsleep then
        { f.put i caller (caller.call.doNext f.controller) with holder := some i }
      else f
    | _, _ => f
  | .drop i => match f.holder, f.callers[i]? with
    | none, some caller =>
      if caller.call.isAsleep then f.put i caller (caller.call.dropped f.controller) else f
    | _, _ => f
  | .reach reachable =>
    { f with controller := { f.controller with
      channel := f.controller.channel.setReachable reachable } }
  | .clock time => { f with controller := f.controller.setTime time }

def run (f : Floor) (turns : List Turn) : Floor := turns.foldl step f

/-- The tickets that the calls hold. -/
def tickets (f : Floor) : List Ticket := f.callers.filterMap (·.call.ticket)

/-- Whether the call with a number has to stop. -/
def halts (f : Floor) (i : Nat) : Bool :=
  f.callers[i]?.any (·.call.stops f.controller)

@[simp] theorem run_nil (f : Floor) : f.run [] = f := rfl

@[simp] theorem run_cons (f : Floor) (turn : Turn) (turns : List Turn) :
    f.run (turn :: turns) = (f.step turn).run turns := rfl

theorem run_append (f : Floor) (a b : List Turn) : f.run (a ++ b) = (f.run a).run b := by
  simp [run]

section

variable {f : Floor} {i : Nat} {caller : Caller}

theorem halts_eq (h : f.callers[i]? = some caller) : f.halts i = caller.call.stops f.controller := by
  simp [halts, h]

theorem put_here (h : f.callers[i]? = some caller) (r : Controller × Call) :
    (f.put i caller r).callers[i]? = some { caller with call := r.2 } :=
  List.getElem?_set_self (List.getElem?_eq_some_iff.1 h).1

theorem put_there {j : Nat} (h : j ≠ i) (other : Caller) (r : Controller × Call) :
    (f.put j other r).callers[i]? = f.callers[i]? :=
  List.getElem?_set_ne h

/-- The call that has the floor does its next task. -/
theorem step_work (hh : f.holder = some i) (h : f.callers[i]? = some caller) :
    f.step .work = f.put i caller (caller.call.doNext f.controller) := by
  simp [step, hh, h]

/-- A call that sleeps wakes where nobody has the floor. -/
theorem step_wake (hh : f.holder = none) (h : f.callers[i]? = some caller)
    (asleep : caller.call.isAsleep = true) :
    f.step (.wake i) = { f.put i caller (caller.call.doNext f.controller) with holder := some i } := by
  simp [step, hh, h, asleep]

end

end Floor

/-! ## What can happen to a call -/

/-- A call does its next task, or is dropped where it sleeps. -/
inductive Call.Move (c : Controller) (call : Call) : Controller × Call → Prop
  | next : Move c call (call.doNext c)
  | drop (h : call.isAsleep = true) : Move c call (call.dropped c)

theorem Call.isAsleep_iff {call : Call} :
    call.isAsleep = true ↔ ∃ n rest, call.tasks = .pause n :: rest := by
  unfold isAsleep
  split
  · rename_i n rest h
    simp [h]
  · rename_i h
    simpa using fun n rest => h n rest

theorem Call.isResting_iff {call : Call} :
    call.isResting = true ↔ call.tasks = [] ∨ ∃ n rest, call.tasks = .pause n :: rest := by
  simp [isResting, isAsleep_iff]

namespace Floor

/-- What a turn does: nothing to the calls and the token, or it begins a call, or it moves one call
that has the floor or sleeps while nobody has it. -/
inductive Stepped (f : Floor) (turn : Turn) (g : Floor) : Prop
  | still (callers : g.callers = f.callers) (token : g.controller.token = f.controller.token)
    (channel : g.controller.channel = f.controller.channel ∨
      ∃ b, turn = .reach b ∧ g.controller.channel = f.controller.channel.setReachable b)
    (holder : ∀ i caller, f.callers[i]? = some caller → g.holder ≠ some i →
      f.holder ≠ some i ∨ caller.call.isResting = true)
  | asked (request : Request) (free : f.holder = none)
    (eq : g = ⟨f.controller, f.callers ++ [⟨request, request.call⟩], some f.callers.length⟩)
  | moved (i : Nat) (caller : Caller) (r : Controller × Call) (here : f.callers[i]? = some caller)
    (move : caller.call.Move f.controller r)
    (kept : turn = .drop i ∨ r = caller.call.doNext f.controller)
    (floor : turn = .work ∧ f.holder = some i ∨ f.holder = none ∧ caller.call.isAsleep = true)
    (controller : g.controller = r.1) (callers : g.callers = f.callers.set i { caller with call := r.2 })
    (holder : g.holder = some i ∨ g.holder = none ∧ r.2.tasks = [])

theorem step_cases (f : Floor) (turn : Turn) : Stepped f turn (f.step turn) := by
  have same : Stepped f turn f := .still rfl rfl (Or.inl rfl) fun i caller _ h => Or.inl h
  cases turn with
  | ask request =>
    simp only [step]
    split
    · rename_i h
      exact .asked request h rfl
    · exact same
  | work =>
    simp only [step]
    split
    · exact same
    · rename_i i h
      split
      · exact same
      · rename_i caller hc
        exact .moved i caller _ hc .next (Or.inr rfl) (Or.inl ⟨rfl, h⟩) rfl rfl (Or.inl h)
  | yield =>
    simp only [step]
    split
    · exact same
    · rename_i i h
      split
      · rename_i hr
        refine .still rfl rfl (Or.inl rfl) fun j caller hc _ => ?_
        by_cases hj : i = j
        · subst hj
          right
          simpa [hc] using hr
        · exact Or.inl (by simpa [h] using hj)
      · exact same
  | wake i =>
    simp only [step]
    split
    · rename_i caller h hc
      split
      · rename_i ha
        exact .moved i caller _ hc .next (Or.inr rfl) (Or.inr ⟨h, ha⟩) rfl rfl (Or.inl rfl)
      · exact same
    · exact same
  | drop i =>
    simp only [step]
    split
    · rename_i caller h hc
      split
      · rename_i ha
        exact .moved i caller _ hc (.drop ha) (Or.inl rfl) (Or.inr ⟨h, ha⟩) rfl rfl (Or.inr ⟨h, rfl⟩)
      · exact same
    · exact same
  | reach b => exact .still rfl rfl (Or.inr ⟨b, rfl, rfl⟩) fun i caller _ h => Or.inl h
  | clock t => exact .still rfl rfl (Or.inl rfl) fun i caller _ h => Or.inl h

/-- Where a call comes from: it was just asked for, it is as it was, or it moved. -/
theorem step_caller {f : Floor} {turn : Turn} {i : Nat} {new : Caller}
    (h : (f.step turn).callers[i]? = some new) :
    new = ⟨new.request, new.request.call⟩ ∨
      ∃ old, f.callers[i]? = some old ∧ old.request = new.request ∧
        (new.call = old.call ∨
          ∃ r, old.call.Move f.controller r ∧ (f.step turn).controller = r.1 ∧ new.call = r.2 ∧
            (turn = .work ∧ f.holder = some i ∨ old.call.isAsleep = true)) := by
  rcases step_cases f turn with ⟨callers⟩ | ⟨request, free, eq⟩ |
    ⟨j, caller, r, here, move, -, floor, controller, callers⟩
  · rw [callers] at h
    exact Or.inr ⟨new, h, rfl, Or.inl rfl⟩
  · rw [eq] at h
    rcases Nat.lt_or_ge i f.callers.length with hi | hi
    · exact Or.inr ⟨new, by rwa [List.getElem?_append_left hi] at h, rfl, Or.inl rfl⟩
    · rw [List.getElem?_append_right hi, List.getElem?_singleton] at h
      split at h
      · cases h
        exact Or.inl rfl
      · cases h
  · rw [callers] at h
    by_cases hj : j = i
    · subst hj
      rw [List.getElem?_set_self (List.getElem?_eq_some_iff.1 here).1] at h
      cases h
      refine Or.inr ⟨caller, here, rfl, Or.inr ⟨r, move, controller, rfl, ?_⟩⟩
      rcases floor with floor | ⟨-, ha⟩
      · exact Or.inl floor
      · exact Or.inr ha
    · rw [List.getElem?_set_ne hj] at h
      exact Or.inr ⟨new, h, rfl, Or.inl rfl⟩

/-- Calls stay what they are called for. -/
theorem step_caller_of {f : Floor} {i : Nat} {old : Caller} (h : f.callers[i]? = some old)
    (turn : Turn) :
    ∃ new, (f.step turn).callers[i]? = some new ∧ new.request = old.request ∧
      (new.call = old.call ∨
        ∃ r, old.call.Move f.controller r ∧ (f.step turn).controller = r.1 ∧ new.call = r.2) := by
  have hi := (List.getElem?_eq_some_iff.1 h).1
  rcases step_cases f turn with ⟨callers⟩ | ⟨request, free, eq⟩ |
    ⟨j, caller, r, here, move, -, floor, controller, callers⟩
  · exact ⟨old, by rw [callers, h], rfl, Or.inl rfl⟩
  · exact ⟨old, by rw [eq, List.getElem?_append_left hi, h], rfl, Or.inl rfl⟩
  · by_cases hj : j = i
    · subst hj
      cases here.symm.trans h
      refine ⟨{ old with call := r.2 }, ?_, rfl, Or.inr ⟨r, move, controller, rfl⟩⟩
      rw [callers, List.getElem?_set_self hi]
    · exact ⟨old, by rw [callers, List.getElem?_set_ne hj, h], rfl, Or.inl rfl⟩

theorem run_caller_of {f : Floor} {i : Nat} {old : Caller} (h : f.callers[i]? = some old)
    (turns : List Turn) : ∃ new, (f.run turns).callers[i]? = some new ∧ new.request = old.request := by
  induction turns generalizing f old with
  | nil => exact ⟨old, h, rfl⟩
  | cons turn turns ih =>
    obtain ⟨new, hnew, hr, -⟩ := step_caller_of h turn
    obtain ⟨last, hlast, hr'⟩ := ih hnew
    exact ⟨last, hlast, hr'.trans hr⟩

end Floor

/-! ## What never changes -/

/-- What no effect changes about a controller, and no turn that does nothing else. -/
structure Controller.Fixed {α : Type} (view : Controller → α) : Prop where
  apply : ∀ c e, view (c.apply e) = view c
  reach : ∀ (c : Controller) b, view { c with channel := c.channel.setReachable b } = view c
  time : ∀ (c : Controller) t, view (c.setTime t) = view c

namespace Controller

theorem fixed_pacing : Fixed (·.pacing) where
  apply c e := by
    cases e with
    | began =>
      simp only [apply, beginRun]
      split <;> rfl
    | raised signal => cases signal <;> rfl
    | planned | emitted | failed | sent | refused | finished => rfl
  reach _ _ := rfl
  time _ _ := rfl

theorem fixed_settle : Fixed (·.channel.settle) where
  apply c e := by
    cases he : e.isCommand with
    | false => rw [channel_apply he]
    | true =>
      cases e with
      | sent | refused =>
        simp only [apply]
        cases c.channel <;> rfl
      | began | planned | emitted | failed | raised | finished => cases he
  reach c b := by cases c.channel <;> rfl
  time _ _ := rfl

namespace Fixed

variable {α : Type} {view : Controller → α}

theorem doNext (h : Fixed view) (c : Controller) (call : Call) : view (call.doNext c).1 = view c := by
  cases ht : call.tasks with
  | nil => rw [Call.doNext_nil ht]
  | cons task rest =>
    rw [Call.doNext_cons ht]
    induction (Call.perform c { call with tasks := rest } task).1 generalizing c with
    | nil => rfl
    | cons e effects ih => rw [List.foldl_cons, ih, h.apply]

theorem dropped (h : Fixed view) (c : Controller) (call : Call) : view (call.dropped c).1 = view c := by
  simp only [Call.dropped]
  split
  · exact h.apply c (.finished _ .stopped 0)
  · rfl

theorem step (h : Fixed view) (f : Floor) (turn : Turn) :
    view (f.step turn).controller = view f.controller := by
  cases turn with
  | reach b => exact h.reach f.controller b
  | clock t => exact h.time f.controller t
  | ask request =>
    simp only [Floor.step]
    split <;> rfl
  | work =>
    simp only [Floor.step]
    split
    · rfl
    · split
      · rfl
      · exact h.doNext _ _
  | yield =>
    simp only [Floor.step]
    split
    · rfl
    · split <;> rfl
  | wake i =>
    simp only [Floor.step]
    split
    · split
      · exact h.doNext _ _
      · rfl
    · rfl
  | drop i =>
    simp only [Floor.step]
    split
    · split
      · exact h.dropped _ _
      · rfl
    · rfl

theorem run (h : Fixed view) (f : Floor) (turns : List Turn) :
    view (f.run turns).controller = view f.controller := by
  induction turns generalizing f with
  | nil => rfl
  | cons turn turns ih => rw [Floor.run_cons, ih, h.step]

end Fixed

end Controller

end BlockPilot
