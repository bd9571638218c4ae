import BlockPilot.Proofs.Floor
import BlockPilot.Run.Session

/-!
# Sessions are turns

A session lets one call after the other go on, each to its next pause, and keeps of a call what is
left behind that pause. Whatever a session does is done by turns on the floor
(`Session.Follows`), so that what holds of all turns holds of every session.
-/

namespace BlockPilot

/-! ## Going on to the next pause is work -/

/-- A call that goes on ends or comes to a pause that it waits for. -/
theorem Call.advance_front (waits : Nat → Bool) (c : Controller) (call : Call) :
    (call.advance waits c).2.tasks = [] ∨
      ∃ n rest, (call.advance waits c).2.tasks = .pause n :: rest ∧ waits n = true := by
  fun_induction Call.advance waits c call with
  | case1 c call ht => exact Or.inl ht
  | case2 c call task rest ht hp =>
    cases task with
    | pause n => exact Or.inr ⟨n, rest, ht, hp⟩
    | _ => cases hp
  | case3 c call task rest ht hp step ih => exact ih

theorem Call.advance_rests (waits : Nat → Bool) (c : Controller) (call : Call) :
    (call.advance waits c).2.isResting = true := by
  rcases advance_front waits c call with ho | ⟨n, rest, ht, -⟩
  · exact isResting_iff.2 (Or.inl ho)
  · exact isResting_iff.2 (Or.inr ⟨n, rest, ht⟩)

namespace Floor

variable {f : Floor} {i : Nat} {caller : Caller}

theorem put_self (h : f.callers[i]? = some caller) : f.put i caller (f.controller, caller.call) = f := by
  obtain ⟨hi, rfl⟩ := List.getElem?_eq_some_iff.1 h
  show Floor.mk f.controller (f.callers.set i f.callers[i]) f.holder = f
  rw [List.set_getElem_self]

theorem put_put (f : Floor) (i : Nat) (caller : Caller) (r r' : Controller × Call) :
    (f.put i caller r).put i { caller with call := r.2 } r' = f.put i caller r' := by
  simp [put, List.set_set]

/-- The call that has the floor goes on to its next pause by working. -/
theorem run_work (hh : f.holder = some i) (hi : f.callers[i]? = some caller) (waits : Nat → Bool) :
    ∃ n, f.run (List.replicate n .work) = f.put i caller (caller.call.advance waits f.controller) := by
  induction hn : caller.call.weight using Nat.strongRecOn generalizing f caller with
  | ind n ih =>
    have stays (h : caller.call.advance waits f.controller = (f.controller, caller.call)) :
        ∃ n, f.run (List.replicate n .work) =
          f.put i caller (caller.call.advance waits f.controller) :=
      ⟨0, by rw [h, put_self hi]; rfl⟩
    cases ht : caller.call.tasks with
    | nil => exact stays (Call.advance_nil ht)
    | cons task rest =>
      cases hp : task.isPause waits with
      | true => exact stays (Call.advance_pause ht hp)
      | false =>
        have hholder : (f.put i caller (caller.call.doNext f.controller)).holder = some i := hh
        obtain ⟨n, hrun⟩ := ih (caller.call.doNext f.controller).2.weight
          (hn ▸ Call.weight_doNext_lt ht) hholder (put_here hi _) rfl
        refine ⟨n + 1, ?_⟩
        rw [List.replicate_succ, run_cons, step_work hh hi, hrun, put_put, Call.advance_doNext ht hp]
        rfl

/-- A call that has gone on to its next pause can give the floor up. -/
theorem step_yield_put (hh : f.holder = some i) (hi : f.callers[i]? = some caller)
    (waits : Nat → Bool) :
    (f.put i caller (caller.call.advance waits f.controller)).step .yield =
      { f.put i caller (caller.call.advance waits f.controller) with holder := none } := by
  have hr : (f.put i caller (caller.call.advance waits f.controller)).callers[i]?.all
      (·.call.isResting) = true := by
    rw [put_here hi]
    exact Call.advance_rests waits f.controller caller.call
  have hholder : (f.put i caller (caller.call.advance waits f.controller)).holder = some i := hh
  simp [step, hholder, hr]

/-- A call that begins goes on to its first pause. -/
theorem run_ask (free : f.holder = none) (request : Request) (waits : Nat → Bool) :
    ∃ turns, f.run turns = ⟨(request.call.advance waits f.controller).1,
      f.callers ++ [⟨request, (request.call.advance waits f.controller).2⟩], none⟩ := by
  let g : Floor := ⟨f.controller, f.callers ++ [⟨request, request.call⟩], some f.callers.length⟩
  have hask : f.step (.ask request) = g := by simp [step, free, g]
  have hi : g.callers[f.callers.length]? = some ⟨request, request.call⟩ := by simp [g]
  obtain ⟨n, hn⟩ := run_work (f := g) rfl hi waits
  refine ⟨.ask request :: (List.replicate n .work ++ [.yield]), ?_⟩
  rw [run_cons, hask, run_append, hn, run_cons, run_nil, step_yield_put rfl hi]
  simp [put, g, List.set_append_right]

/-- A call that sleeps goes on to its next pause. -/
theorem run_wake (free : f.holder = none) (hi : f.callers[i]? = some caller) {nanoseconds : Nat}
    {rest : Call} (hn : caller.call.next? = some (nanoseconds, rest)) (waits : Nat → Bool) (time : Nat) :
    ∃ turns, f.run turns = ⟨(rest.advance waits (f.controller.setTime time)).1,
      f.callers.set i { caller with call := (rest.advance waits (f.controller.setTime time)).2 },
      none⟩ := by
  let g : Floor := ⟨f.controller.setTime time, f.callers.set i { caller with call := rest }, some i⟩
  have hasleep : caller.call.isAsleep = true := by
    unfold Call.next? at hn
    split at hn
    · rename_i ht
      exact Call.isAsleep_iff.2 ⟨_, _, ht⟩
    · cases hn
  have hwake : (f.step (.clock time)).step (.wake i) = g := by
    simp [step, free, hi, hasleep, Call.doNext_next? hn, put, g]
  have hg : g.callers[i]? = some { caller with call := rest } :=
    List.getElem?_set_self (List.getElem?_eq_some_iff.1 hi).1
  obtain ⟨n, hrun⟩ := run_work (f := g) rfl hg waits
  refine ⟨.clock time :: .wake i :: (List.replicate n .work ++ [.yield]), ?_⟩
  rw [run_cons, run_cons, hwake, run_append, hrun, run_cons, run_nil, step_yield_put rfl hg]
  simp [put, g, List.set_set]

end Floor

/-! ## What a session shows of the floor -/

/-- An entry shows where a call stands. -/
def Entry.Shows (call : Call) : Entry → Prop
  | .asleep rest _ => ∃ nanoseconds, call.next? = some (nanoseconds, rest)
  | .ended last => call = last ∧ call.tasks = []
  | .taken => call.isResting = true

theorem Entry.Shows.rests {call : Call} {entry : Entry} (h : entry.Shows call) :
    call.isResting = true := by
  cases entry with
  | asleep rest time =>
    obtain ⟨n, hn⟩ := h
    unfold Call.next? at hn
    split at hn
    · rename_i ht
      exact Call.isResting_iff.2 (Or.inr ⟨_, _, ht⟩)
    · cases hn
  | ended last => exact Call.isResting_iff.2 (Or.inl h.2)
  | taken => exact h

/-- A call that rests is shown by its entry. -/
theorem Entry.shows_ofCall {call : Call} (h : call.isResting = true) (clock : Duration) :
    (Entry.ofCall clock call).Shows call := by
  unfold Entry.ofCall
  split
  · rename_i n rest hn
    exact ⟨n, hn⟩
  · rename_i hn
    rcases Call.isResting_iff.1 h with ht | ⟨n, rest, ht⟩
    · exact ⟨rfl, ht⟩
    · simp [Call.next?, ht] at hn

/-- A session shows some calls on the floor: the one behind the entry `i` stands in the place
`places[i]`. -/
structure Session.Shows (s : Session) (f : Floor) (places : List Nat) : Prop where
  controller : f.controller = s.controller
  free : f.holder = none
  length : places.length = s.entries.length
  distinct : places.Nodup
  stands : ∀ (i : Nat) (entry : Entry) (j : Nat), s.entries[i]? = some entry → places[i]? = some j →
    ∃ caller, f.callers[j]? = some caller ∧ entry.Shows caller.call

/-- What leads from one session to another can be done by turns. -/
def Session.Follows (s t : Session) : Prop :=
  ∀ f places, s.Shows f places → ∃ turns places', t.Shows (f.run turns) places'

namespace Session

variable {s t u : Session} {f : Floor} {places : List Nat}

theorem shows_new (c : Controller) : (Session.new c).Shows (Floor.new c) [] :=
  ⟨rfl, rfl, rfl, List.nodup_nil, by simp⟩

namespace Shows

/-- The place of an entry, and who stands there. -/
theorem place (h : s.Shows f places) {i : Nat} {entry : Entry} (hi : s.entries[i]? = some entry) :
    ∃ j caller, places[i]? = some j ∧ f.callers[j]? = some caller ∧ entry.Shows caller.call := by
  have hlt : i < places.length := by
    rw [h.length]
    exact (List.getElem?_eq_some_iff.1 hi).1
  obtain ⟨caller, hc, he⟩ := h.stands i entry places[i] hi (List.getElem?_eq_getElem hlt)
  exact ⟨places[i], caller, List.getElem?_eq_getElem hlt, hc, he⟩

theorem place_lt (h : s.Shows f places) : ∀ j ∈ places, j < f.callers.length := by
  intro j hj
  obtain ⟨i, hi, rfl⟩ := List.mem_iff_getElem.1 hj
  have hs : i < s.entries.length := by rwa [← h.length]
  obtain ⟨caller, hc, -⟩ := h.stands i s.entries[i] places[i] (List.getElem?_eq_getElem hs)
    (List.getElem?_eq_getElem hi)
  exact (List.getElem?_eq_some_iff.1 hc).1

/-- One call and its entry change. -/
theorem set (h : s.Shows f places) {i j : Nat} {caller new : Caller} {entry : Entry}
    (hj : places[i]? = some j) (hc : f.callers[j]? = some caller) (hn : entry.Shows new.call)
    (c : Controller) :
    (⟨c, s.entries.set i entry⟩ : Session).Shows ⟨c, f.callers.set j new, none⟩ places := by
  refine ⟨rfl, rfl, by simpa using h.length, h.distinct, ?_⟩
  intro i' entry' j' hi' hj'
  by_cases hii : i = i'
  · subst hii
    obtain rfl : j = j' := by simpa using hj.symm.trans hj'
    have hlt : i < s.entries.length := by
      rw [← h.length]
      exact (List.getElem?_eq_some_iff.1 hj).1
    rw [List.getElem?_set_self hlt, Option.some.injEq] at hi'
    subst hi'
    exact ⟨new, List.getElem?_set_self (List.getElem?_eq_some_iff.1 hc).1, hn⟩
  · rw [List.getElem?_set_ne hii] at hi'
    have hjj : j ≠ j' := by
      rintro rfl
      have hlt := (List.getElem?_eq_some_iff.1 hj).1
      exact hii ((List.getElem?_inj hlt h.distinct).1 (hj.trans hj'.symm))
    obtain ⟨caller', hc', he'⟩ := h.stands i' entry' j' hi' hj'
    exact ⟨caller', by rw [List.getElem?_set_ne hjj, hc'], he'⟩

/-- An entry that is taken shows less. -/
theorem taken (h : s.Shows f places) (i : Nat) :
    (⟨s.controller, s.entries.set i .taken⟩ : Session).Shows f places := by
  refine ⟨h.controller, h.free, by simpa using h.length, h.distinct, ?_⟩
  intro i' entry' j' hi' hj'
  by_cases hii : i = i'
  · subst hii
    have hlt : i < s.entries.length := by
      rw [← h.length]
      exact (List.getElem?_eq_some_iff.1 hj').1
    rw [List.getElem?_set_self hlt, Option.some.injEq] at hi'
    subst hi'
    obtain ⟨caller, hc, he⟩ := h.stands i s.entries[i] j' (List.getElem?_eq_getElem hlt) hj'
    exact ⟨caller, hc, he.rests⟩
  · rw [List.getElem?_set_ne hii] at hi'
    exact h.stands i' entry' j' hi' hj'

end Shows

namespace Follows

theorem refl (s : Session) : s.Follows s := fun _ places h => ⟨[], places, h⟩

theorem trans (h : s.Follows t) (h' : t.Follows u) : s.Follows u := by
  intro f places hs
  obtain ⟨turns, places', ht⟩ := h f places hs
  obtain ⟨turns', places'', hu⟩ := h' _ places' ht
  exact ⟨turns ++ turns', places'', by rwa [Floor.run_append]⟩

/-- A call that wakes. -/
theorem resume {i : Nat} {call : Call} {time : Nat} (hi : s.entries[i]? = some (.asleep call time)) :
    s.Follows (s.resume i call time) := by
  intro f places h
  obtain ⟨j, caller, hj, hc, nanoseconds, hn⟩ := h.place hi
  obtain ⟨turns, hrun⟩ := Floor.run_wake h.free hc hn Session.takesTime time
  refine ⟨turns, places, ?_⟩
  rw [hrun, h.controller]
  exact h.set hj hc (Entry.shows_ofCall (Call.advance_rests ..) _) _

theorem tick {limit : Option Nat} (ht : s.tick? limit = some t) : s.Follows t := by
  unfold Session.tick? at ht
  split at ht
  · cases ht
  · rename_i i call time he
    split at ht
    · cases ht
    · obtain rfl : s.resume i call time = t := by simpa using ht
      exact resume (by simpa using (earliest?_spec he).2)

theorem runUntil (limit : Option Nat) (holds : Session → Bool) (s : Session) :
    s.Follows (s.runUntil limit holds) := by
  fun_induction Session.runUntil limit holds s with
  | case1 s hs => exact refl s
  | case2 s hs ht => exact refl s
  | case3 s hs t ht ih => exact (tick ht).trans ih

theorem sleepUntil (s : Session) (time : Nat) : s.Follows (s.sleepUntil time) := by
  refine (runUntil (some time) (fun _ => false) s).trans ?_
  intro f places h
  refine ⟨[.clock (.ofMillis (max time (s.runUntil (some time) fun _ => false).now))], places, ?_⟩
  refine ⟨?_, h.free, h.length, h.distinct, h.stands⟩
  rw [Floor.run_cons, Floor.run_nil, Floor.step, h.controller]
  rfl

/-- A call that begins. -/
theorem start (s : Session) (request : Request) : s.Follows (s.start request.call).1 := by
  intro f places h
  obtain ⟨turns, hrun⟩ := Floor.run_ask (f := f.step (.clock s.now)) h.free request Session.takesTime
  have htime : (f.step (.clock s.now)).controller = s.controller.setTime s.now := by
    rw [Floor.step, h.controller]
  refine ⟨.clock s.now :: turns, places ++ [f.callers.length], ?_⟩
  rw [Floor.run_cons, hrun, htime]
  have hlen : f.callers.length = (f.step (.clock s.now)).callers.length := rfl
  refine ⟨rfl, rfl, by simp [Session.start, Session.resume, h.length], ?_, ?_⟩
  · rw [List.nodup_append]
    refine ⟨h.distinct, by simp, ?_⟩
    intro j hj k hk
    have := h.place_lt j hj
    simp only [List.mem_singleton] at hk
    omega
  · intro i entry j hi hj
    simp only [Session.start, Session.resume] at hi
    rcases Nat.lt_or_ge i s.entries.length with hlt | hge
    · rw [List.getElem?_set_ne (by omega), List.getElem?_append_left hlt] at hi
      rw [List.getElem?_append_left (by rwa [h.length])] at hj
      obtain ⟨caller, hc, he⟩ := h.stands i entry j hi hj
      have hjlt := h.place_lt j (List.mem_of_getElem? hj)
      exact ⟨caller, (List.getElem?_append_left hjlt).trans hc, he⟩
    · have hpl : i < (places ++ [f.callers.length]).length := (List.getElem?_eq_some_iff.1 hj).1
      obtain rfl : i = s.entries.length := by
        simp only [List.length_append, List.length_singleton, h.length] at hpl
        omega
      rw [List.getElem?_set_self (by simp), Option.some.injEq] at hi
      rw [← h.length, List.getElem?_append_right (Nat.le_refl _)] at hj
      obtain rfl : f.callers.length = j := by simpa using hj
      subst hi
      refine ⟨_, List.getElem?_concat_length, ?_⟩
      exact Entry.shows_ofCall (Call.advance_rests ..) _

/-- A call that is dropped. -/
theorem dropCall (s : Session) (i : Nat) : s.Follows (s.dropCall i) := by
  intro f places h
  unfold Session.dropCall
  split
  · rename_i rest time hi
    obtain ⟨j, caller, hj, hc, nanoseconds, hn⟩ := h.place hi
    have hasleep : caller.call.isAsleep = true ∧ caller.call.ticket = rest.ticket := by
      unfold Call.next? at hn
      split at hn
      · rename_i ht
        simp only [Option.some.injEq, Prod.mk.injEq] at hn
        obtain ⟨-, rfl⟩ := hn
        exact ⟨Call.isAsleep_iff.2 ⟨_, _, ht⟩, rfl⟩
      · cases hn
    refine ⟨[.drop j], places, ?_⟩
    have hstep : f.run [.drop j] = ⟨(caller.call.dropped f.controller).1,
        f.callers.set j { caller with call := (caller.call.dropped f.controller).2 }, none⟩ := by
      simp [Floor.step, h.free, hc, hasleep.1, Floor.put]
    have htaken : Entry.taken.Shows (caller.call.dropped f.controller).2 := rfl
    rw [hstep, ← hasleep.2, ← h.controller]
    exact h.set hj hc htaken _
  · exact ⟨[], places, h.taken i⟩

theorem taken (s : Session) (i : Nat) : s.Follows ⟨s.controller, s.entries.set i .taken⟩ :=
  fun _ places h => ⟨[], places, h.taken i⟩

theorem take (s : Session) (n : Nat) : s.Follows ⟨s.controller, s.entries.take n⟩ := by
  intro f places h
  refine ⟨[], places.take n, h.controller, h.free, by simp [h.length],
    h.distinct.sublist (List.take_sublist n places), ?_⟩
  intro i entry j hi hj
  rw [List.getElem?_take] at hi hj
  split at hi
  · rename_i hlt
    rw [if_pos hlt] at hj
    exact h.stands i entry j hi hj
  · cases hi

/-- What is left of the timeout of a call that has no answer. -/
theorem timeout (s : Session) (limit : Option Nat) (answered : Bool) :
    s.Follows (match limit with
      | some time => if answered then s else s.sleepUntil time
      | none => s) := by
  cases limit with
  | none => exact refl s
  | some time =>
    cases answered with
    | true => exact refl s
    | false => exact sleepUntil s time

/-- **Sessions are turns.** A call that is done from its beginning to its end while the others go
on, with a timeout or without. -/
theorem perform (s : Session) (request : Request) (limit : Option Nat) :
    s.Follows (s.perform request.call limit).1 := by
  let deadline := limit.map (s.now + ·)
  let i := (s.start request.call).2
  let waited := (s.start request.call).1.runUntil deadline (Session.isOver i)
  have hwaited : s.Follows waited := (start s request).trans (runUntil deadline _ _)
  have htimeout := timeout waited deadline (waited.overCall? i).isSome
  exact hwaited.trans (htimeout.trans ((dropCall _ i).trans (take _ i)))

theorem join (s : Session) (i : Nat) : s.Follows (s.join i).1 := by
  unfold Session.join
  split
  · exact refl s
  · exact refl s
  · exact (runUntil none _ s).trans (taken _ i)

theorem abort (s : Session) (i : Nat) : s.Follows (s.abort i).1 := by
  unfold Session.abort
  split
  · exact refl s
  · exact refl s
  · exact taken s i
  · exact dropCall s i

end Follows

/-- A call that is over in a session is one of the floor behind some turns. -/
theorem ended_on_floor {c : Controller} (h : (Session.new c).Follows s) {i : Nat} {call : Call}
    (hi : s.entries[i]? = some (.ended call)) :
    ∃ (turns : List Turn) (j : Nat) (request : Request),
      ((Floor.new c).run turns).callers[j]? = some ⟨request, call⟩ := by
  obtain ⟨turns, places, hs⟩ := h _ [] (shows_new c)
  obtain ⟨j, caller, -, hc, he⟩ := hs.place hi
  obtain ⟨request, last⟩ := caller
  obtain rfl : last = call := he.1
  exact ⟨turns, j, request, hc⟩

end Session

end BlockPilot
