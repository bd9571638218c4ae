import BlockPilot.Proofs.FloorInv

/-!
# The story of the floor

The story of some turns tells in order what they do, each effect with the number of the call that
does it. It is complete: what one call did (`Floor.told_run`), what stands in the log
(`Floor.log_run`) and what a recorder has recorded (`Floor.records_run`) can be read off it.

So can the numbers of the tickets, which count the runs that begin (`Floor.generation_run`). They are
natural numbers on the floor. A counter of 64 bits tells the same tickets apart as long as fewer than
`2 ^ 64` runs begin (`Floor.tickets_fit`).
-/

namespace BlockPilot

/-! ## The effects of a task -/

/-- What an effect leaves in the log: a run begins with an empty one. -/
def EventLog.write (log : EventLog) : Effect → EventLog
  | .began => log.clear
  | e => (e.marks.flatMap Mark.events).foldl EventLog.emit log

def Effect.dispatch? : Effect → Option Dispatch
  | .sent d => some d
  | _ => none

theorem Effect.dispatch?_eq_some {e : Effect} {d : Dispatch} : e.dispatch? = some d ↔ e = .sent d := by
  cases e <;> simp [dispatch?]

/-- A command that is sent is one that the channel is seen to take. -/
theorem Effect.taken_marks (e : Effect) :
    e.marks.filterMap Mark.taken? = (e.dispatch?.map (·.command)).toList := by
  cases e <;> rfl

/-- Whether an effect is the beginning of a run. -/
def Effect.isBegan : Effect → Bool
  | .began => true
  | _ => false

theorem Effect.isBegan_eq_true {e : Effect} : e.isBegan = true ↔ e = .began := by
  cases e <;> simp [isBegan]

def Channel.isRecorder : Channel → Bool
  | .recorder _ => true
  | .link _ => false

namespace EventLog

/-- An event that is retained behind another one was retained before, or it is that one. -/
theorem mem_emit {log : EventLog} {e event : Event} (h : event ∈ (log.emit e).events) :
    event ∈ log.events ∨ event = e := by
  simp only [emit, retain] at h
  split at h
  · exact (List.mem_append.1 h).imp List.mem_of_mem_tail List.mem_singleton.1
  · exact (List.mem_append.1 h).imp id List.mem_singleton.1

theorem mem_foldl_emit {log : EventLog} {es : List Event} {event : Event}
    (h : event ∈ (es.foldl emit log).events) : event ∈ log.events ∨ event ∈ es := by
  induction es generalizing log with
  | nil => exact Or.inl h
  | cons e es ih =>
    rcases ih h with h | h
    · exact (mem_emit h).imp id fun heq => by simp [heq]
    · exact Or.inr (List.mem_cons_of_mem e h)

/-- An event of the log stood in it before, or one of the effects wrote it. -/
theorem mem_foldl_write {log : EventLog} {effects : List Effect} {event : Event}
    (h : event ∈ (effects.foldl write log).events) :
    event ∈ log.events ∨ ∃ e ∈ effects, event ∈ e.marks.flatMap Mark.events := by
  induction effects generalizing log with
  | nil => exact Or.inl h
  | cons e effects ih =>
    rcases ih h with h | ⟨e', he, hevent⟩
    · have hwritten : event ∈ log.events ∨ event ∈ e.marks.flatMap Mark.events := by
        cases e with
        | began => cases h
        | planned | emitted | failed | sent | refused | raised | finished => exact mem_foldl_emit h
      exact hwritten.imp id fun hevent => ⟨e, by simp, hevent⟩
    · exact Or.inr ⟨e', by simp [he], hevent⟩

end EventLog

namespace Controller

theorem write_foldl {effects : List Effect} (h : ∀ e ∈ effects, e ≠ .began) (c : Controller) :
    (effects.foldl apply c).log = effects.foldl EventLog.write c.log := by
  induction effects generalizing c with
  | nil => rfl
  | cons e effects ih =>
    have hne : e ≠ .began := h e (by simp)
    have he : (c.apply e).log = c.log.write e := by
      rw [log_apply c e hne]
      cases e with
      | began => exact absurd rfl hne
      | planned | emitted | failed | sent | refused | raised | finished => rfl
    rw [List.foldl_cons, List.foldl_cons, ih (fun x hx => h x (by simp [hx])), he]

/-- Only a run that begins takes a number. -/
theorem generation_foldl {effects : List Effect} (h : ∀ e ∈ effects, e ≠ .began) (c : Controller) :
    (effects.foldl apply c).token.generation = c.token.generation := by
  induction effects generalizing c with
  | nil => rfl
  | cons e effects ih =>
    rw [List.foldl_cons, ih fun x hx => h x (by simp [hx])]
    cases e with
    | began => exact absurd rfl (h .began (by simp))
    | raised signal => cases signal <;> simp [apply, raise, Token.requestStop, Token.requestEmergencyStop]
    | finished => simp [apply, release]
    | planned | emitted | failed | sent | refused => rfl

theorem isRecorder_apply (c : Controller) (e : Effect) :
    (c.apply e).channel.isRecorder = c.channel.isRecorder := by
  cases hc : e.isCommand with
  | false => rw [channel_apply hc]
  | true =>
    cases e with
    | sent | refused =>
      simp only [apply]
      cases c.channel <;> rfl
    | began | planned | emitted | failed | raised | finished => cases hc

theorem recorded_apply {c : Controller} (hc : c.channel.isRecorder = true) (e : Effect) :
    (c.apply e).channel.records = e.dispatch?.toList ++ c.channel.records := by
  cases he : e.isCommand with
  | false =>
    rw [channel_apply he]
    cases e with
    | sent | refused => cases he
    | began | planned | emitted | failed | raised | finished => rfl
  | true =>
    cases hr : c.channel with
    | link => simp [hr, Channel.isRecorder] at hc
    | recorder r =>
      cases e with
      | sent | refused => simp [apply, hr, Channel.record, Channel.refuse, Channel.records, Effect.dispatch?]
      | began | planned | emitted | failed | raised | finished => cases he

/-- A recorder records the commands that are sent, and nothing else. -/
theorem recorded_foldl (effects : List Effect) {c : Controller} (hc : c.channel.isRecorder = true) :
    (effects.foldl apply c).channel.isRecorder = true ∧
      (effects.foldl apply c).channel.records =
        (effects.filterMap Effect.dispatch?).reverse ++ c.channel.records := by
  induction effects generalizing c with
  | nil => exact ⟨hc, rfl⟩
  | cons e effects ih =>
    obtain ⟨hr, he⟩ := ih (c := c.apply e) (by rw [isRecorder_apply, hc])
    refine ⟨hr, ?_⟩
    rw [List.foldl_cons, he, recorded_apply hc]
    cases hd : e.dispatch? <;> simp [hd]

end Controller

namespace Call

/-- What the first task of a call does. -/
def effects (c : Controller) (call : Call) : List Effect :=
  match call.tasks with
  | [] => []
  | task :: rest => (perform c { call with tasks := rest } task).1

variable {c : Controller} {call : Call}

theorem effects_cons {task : Task} {rest : List Task} (h : call.tasks = task :: rest) :
    call.effects c = (perform c { call with tasks := rest } task).1 := by
  simp [effects, h]

theorem controller_doNext (c : Controller) (call : Call) :
    (call.doNext c).1 = (call.effects c).foldl Controller.apply c := by
  cases ht : call.tasks with
  | nil => simp [effects, doNext, ht]
  | cons task rest => rw [doNext_cons ht, effects_cons ht]

theorem told_doNext (c : Controller) (call : Call) :
    (call.doNext c).2.trace.reverse = call.trace.reverse ++ call.effects c := by
  cases ht : call.tasks with
  | nil => simp [effects, doNext, ht]
  | cons task rest => rw [trace_doNext ht, effects_cons ht]

/-- A call begins a run only if none goes on, and then says nothing else but what it will do. -/
theorem effects_cases (c : Controller) (call : Call) :
    (∃ r sequences nodes, c.token.begin? = some r ∧ call.effects c =
      [.began, .emitted ⟨.success, "Starting..."⟩, .planned sequences nodes]) ∨
    ∀ e ∈ call.effects c, e ≠ .began := by
  cases ht : call.tasks with
  | nil => exact Or.inr (by simp [effects, ht])
  | cons task rest =>
    rw [effects_cons ht]
    by_cases hb : ∃ p, task = .begin p
    · obtain ⟨p, rfl⟩ := hb
      cases hg : c.token.begin? with
      | none => exact Or.inr (by simp [perform, doBegin, hg])
      | some r =>
        exact Or.inl ⟨r, p.sequences.length, p.count, rfl, by simp [perform, doBegin, hg]⟩
    · exact Or.inr (perform_ne_began c _ fun p h => hb ⟨p, h⟩)

theorem log_doNext (c : Controller) (call : Call) :
    (call.doNext c).1.log = (call.effects c).foldl EventLog.write c.log := by
  rw [controller_doNext]
  rcases effects_cases c call with ⟨r, sequences, nodes, hb, he⟩ | hnone
  · simp [he, hb, Controller.apply, Controller.beginRun, EventLog.write, Effect.marks, Mark.events]
  · exact Controller.write_foldl hnone c

theorem generation_doNext (c : Controller) (call : Call) :
    (call.doNext c).1.token.generation =
      c.token.generation + (call.effects c).countP Effect.isBegan := by
  rw [controller_doNext]
  rcases effects_cases c call with ⟨⟨k, t⟩, sequences, nodes, hb, he⟩ | hnone
  · obtain ⟨-, -, hg, -, -⟩ := Token.begin?_eq_some hb
    simp only [he, hb, List.foldl_cons, List.foldl_nil, Controller.apply, Controller.beginRun, hg]
    rfl
  · have hzero : (call.effects c).countP Effect.isBegan = 0 :=
      List.countP_eq_zero.2 fun e he hbegan => hnone e he (Effect.isBegan_eq_true.1 hbegan)
    rw [Controller.generation_foldl hnone, hzero, Nat.add_zero]

end Call

/-! ## The story -/

namespace Floor

/-- What a turn does, and the number of the call that does it. -/
def deeds (f : Floor) : Turn → List (Nat × Effect)
  | .work => match f.holder with
    | none => []
    | some i => match f.callers[i]? with
      | none => []
      | some caller => (caller.call.effects f.controller).map (i, ·)
  | _ => []

/-- What some turns do, in order. -/
def story (f : Floor) : List Turn → List (Nat × Effect)
  | [] => []
  | turn :: turns => f.deeds turn ++ (f.step turn).story turns

/-- How many runs begin at some turns. -/
def begins (f : Floor) (turns : List Turn) : Nat := (f.story turns).countP (·.2.isBegan)

/-- What the call with a number did so far. -/
def told (f : Floor) (i : Nat) : List Effect :=
  (f.callers[i]?.map (·.call.trace.reverse)).getD []

theorem told_eq {f : Floor} {i : Nat} {caller : Caller} (h : f.callers[i]? = some caller) :
    f.told i = caller.call.trace.reverse := by
  simp [told, h]

theorem told_put {f : Floor} {i : Nat} {caller : Caller} (h : f.callers[i]? = some caller)
    (r : Controller × Call) (j : Nat) :
    (f.put i caller r).told j = if i = j then r.2.trace.reverse else f.told j := by
  have hi := (List.getElem?_eq_some_iff.1 h).1
  by_cases hj : i = j
  · subst hj
    simp [told, put, List.getElem?_set_self hi]
  · simp [told, put, List.getElem?_set_ne hj, hj]

/-- Nothing has happened between two floors that a story tells of. -/
structure Alike (f g : Floor) : Prop where
  log : g.controller.log = f.controller.log
  records : g.controller.channel.records = f.controller.channel.records
  isRecorder : g.controller.channel.isRecorder = f.controller.channel.isRecorder
  generation : g.controller.token.generation = f.controller.token.generation
  told : ∀ i, g.told i = f.told i

namespace Alike

variable {f : Floor} {i : Nat} {caller : Caller}

theorem refl (f : Floor) : Alike f f := ⟨rfl, rfl, rfl, rfl, fun _ => rfl⟩

theorem ask (f : Floor) (request : Request) : Alike f (f.step (.ask request)) := by
  simp only [step]
  split
  · refine ⟨rfl, rfl, rfl, rfl, fun i => ?_⟩
    have hnew : request.call.trace = [] := by cases request <;> rfl
    rcases Nat.lt_or_ge i f.callers.length with hi | hi
    · simp [Floor.told, List.getElem?_append_left hi]
    · simp only [Floor.told, List.getElem?_append_right hi, List.getElem?_eq_none hi,
        List.getElem?_singleton]
      split
      · simp [hnew]
      · rfl
  · exact refl f

/-- One call changes without doing anything, and of the controller the token without its number. -/
theorem put (hc : f.callers[i]? = some caller) {r : Controller × Call}
    (log : r.1.log = f.controller.log) (channel : r.1.channel = f.controller.channel)
    (generation : r.1.token.generation = f.controller.token.generation)
    (trace : r.2.trace = caller.call.trace) (holder : Option Nat) :
    Alike f { f.put i caller r with holder } := by
  refine ⟨log, congrArg Channel.records channel, congrArg Channel.isRecorder channel, generation, fun j => ?_⟩
  refine (told_put hc r j).trans ?_
  split
  · rename_i hij
    rw [trace, ← hij, told_eq hc]
  · rfl

theorem wake (f : Floor) (i : Nat) : Alike f (f.step (.wake i)) := by
  simp only [step]
  split
  · rename_i caller hh hc
    split
    · rename_i ha
      obtain ⟨n, rest, ht⟩ := Call.isAsleep_iff.1 ha
      have hnext := Call.doNext_cons (c := f.controller) ht
      exact put hc (by rw [hnext]; rfl) (by rw [hnext]; rfl) (by rw [hnext]; rfl) (by rw [hnext]; rfl) _
    · exact refl f
  · exact refl f

theorem drop (f : Floor) (i : Nat) : Alike f (f.step (.drop i)) := by
  simp only [step]
  split
  · rename_i caller hh hc
    split
    · obtain ⟨log, channel, generation⟩ :
          (caller.call.dropped f.controller).1.log = f.controller.log ∧
          (caller.call.dropped f.controller).1.channel = f.controller.channel ∧
          (caller.call.dropped f.controller).1.token.generation = f.controller.token.generation := by
        simp only [Call.dropped]
        cases caller.call.ticket with
        | none => exact ⟨rfl, rfl, rfl⟩
        | some k => exact ⟨rfl, rfl, Token.release_generation _ k⟩
      exact put hc log channel generation rfl f.holder
    · exact refl f
  · exact refl f

end Alike

/-- A turn is work of the call that has the floor, or it tells nothing. -/
theorem deeds_cases (f : Floor) (turn : Turn) :
    (turn = .work ∧ ∃ i caller, f.holder = some i ∧ f.callers[i]? = some caller ∧
        f.step turn = f.put i caller (caller.call.doNext f.controller) ∧
        f.deeds turn = (caller.call.effects f.controller).map (i, ·)) ∨
      f.deeds turn = [] ∧ Alike f (f.step turn) := by
  cases turn with
  | work =>
    cases hh : f.holder with
    | none => exact Or.inr ⟨by simp [deeds, hh], by simpa [step, hh] using Alike.refl f⟩
    | some i =>
      cases hc : f.callers[i]? with
      | none => exact Or.inr ⟨by simp [deeds, hh, hc], by simpa [step, hh, hc] using Alike.refl f⟩
      | some caller =>
        exact Or.inl ⟨rfl, i, caller, rfl, hc, step_work hh hc, by simp [deeds, hh, hc]⟩
  | ask request => exact Or.inr ⟨rfl, Alike.ask f request⟩
  | yield =>
    refine Or.inr ⟨rfl, ?_⟩
    simp only [step]
    split
    · exact Alike.refl f
    · split
      · exact ⟨rfl, rfl, rfl, rfl, fun _ => rfl⟩
      · exact Alike.refl f
  | wake i => exact Or.inr ⟨rfl, Alike.wake f i⟩
  | drop i => exact Or.inr ⟨rfl, Alike.drop f i⟩
  | reach b =>
    refine Or.inr ⟨rfl, rfl, ?_, ?_, rfl, fun _ => rfl⟩
    · simp only [step]
      cases f.controller.channel <;> rfl
    · simp only [step]
      cases f.controller.channel <;> rfl
  | clock t => exact Or.inr ⟨rfl, rfl, rfl, rfl, rfl, fun _ => rfl⟩

/-- Each call did its part of the story. -/
theorem told_run (f : Floor) (turns : List Turn) (i : Nat) :
    (f.run turns).told i = f.told i ++ ((f.story turns).filter (·.1 == i)).map Prod.snd := by
  induction turns generalizing f with
  | nil => simp [story]
  | cons turn turns ih =>
    have hstep : (f.step turn).told i = f.told i ++ ((f.deeds turn).filter (·.1 == i)).map Prod.snd := by
      rcases deeds_cases f turn with ⟨-, j, caller, -, hc, hs, hd⟩ | ⟨hd, halike⟩
      · rw [hs, hd, told_put hc, Call.told_doNext]
        by_cases hj : j = i
        · subst hj
          rw [if_pos rfl, told_eq hc]
          simp [List.filter_map, Function.comp_def]
        · rw [if_neg hj]
          simp [List.filter_map, Function.comp_def, hj]
      · rw [halike.told, hd]
        simp
    rw [run_cons, ih, hstep, story]
    simp

/-- What a call shows are the marks of its part of the story. -/
theorem marks_run {f : Floor} {turns : List Turn} {i : Nat} {caller : Caller}
    (h : (f.run turns).callers[i]? = some caller) :
    caller.call.marks =
      (f.told i).flatMap Effect.marks ++ ((f.story turns).filter (·.1 == i)).flatMap (·.2.marks) := by
  have htold := told_run f turns i
  rw [told_eq h] at htold
  rw [Call.marks, htold, List.flatMap_append, List.flatMap_map]

/-- The log holds what the story wrote into it. -/
theorem log_run (f : Floor) (turns : List Turn) :
    (f.run turns).controller.log =
      ((f.story turns).map Prod.snd).foldl EventLog.write f.controller.log := by
  induction turns generalizing f with
  | nil => rfl
  | cons turn turns ih =>
    have hstep : (f.step turn).controller.log =
        ((f.deeds turn).map Prod.snd).foldl EventLog.write f.controller.log := by
      rcases deeds_cases f turn with ⟨-, j, caller, -, -, hs, hd⟩ | ⟨hd, halike⟩
      · rw [hs, hd, List.map_map]
        exact (Call.log_doNext f.controller caller.call).trans (by simp [Function.comp_def])
      · rw [halike.log, hd]
        rfl
    rw [run_cons, ih, hstep, story, List.map_append, List.foldl_append]

/-- A recorder records what a turn sends. -/
theorem records_step {f : Floor} (hr : f.controller.channel.isRecorder = true) (turn : Turn) :
    (f.step turn).controller.channel.isRecorder = true ∧
      (f.step turn).controller.channel.records =
        ((f.deeds turn).filterMap (·.2.dispatch?)).reverse ++ f.controller.channel.records := by
  rcases deeds_cases f turn with ⟨-, j, caller, -, -, hs, hd⟩ | ⟨hd, halike⟩
  · have := Controller.recorded_foldl (caller.call.effects f.controller) hr
    rw [← Call.controller_doNext] at this
    rw [hs, hd, List.filterMap_map]
    exact this
  · rw [halike.records, halike.isRecorder, hd]
    exact ⟨hr, rfl⟩

theorem isRecorder_run {f : Floor} (hr : f.controller.channel.isRecorder = true) (turns : List Turn) :
    (f.run turns).controller.channel.isRecorder = true := by
  induction turns generalizing f with
  | nil => exact hr
  | cons turn turns ih => exact ih (records_step hr turn).1

/-- A recorder holds the commands of the story, the newest first. -/
theorem records_run {f : Floor} (hr : f.controller.channel.isRecorder = true) (turns : List Turn) :
    (f.run turns).controller.channel.records =
      ((f.story turns).filterMap (·.2.dispatch?)).reverse ++ f.controller.channel.records := by
  induction turns generalizing f with
  | nil => rfl
  | cons turn turns ih =>
    obtain ⟨hrec, hstep⟩ := records_step hr turn
    rw [run_cons, ih hrec, hstep, story]
    simp

/-- The commands that a recorder holds are those that the channel is seen to take in the story. -/
theorem commands_run {f : Floor} (hr : f.controller.channel.isRecorder = true) (turns : List Turn) :
    (f.run turns).controller.channel.records.map (·.command) =
      (((f.story turns).flatMap (·.2.marks)).filterMap Mark.taken?).reverse ++
        f.controller.channel.records.map (·.command) := by
  have hsent : ((f.story turns).filterMap (·.2.dispatch?)).map (·.command) =
      ((f.story turns).flatMap (·.2.marks)).filterMap Mark.taken? := by
    rw [List.map_filterMap, List.filterMap_eq_flatMap_toList, List.filterMap_flatMap]
    simp only [Effect.taken_marks]
  rw [records_run hr, List.map_append, List.map_reverse, hsent]

/-- The number of the newest run counts the runs that have begun. -/
theorem generation_run (f : Floor) (turns : List Turn) :
    (f.run turns).controller.token.generation = f.controller.token.generation + f.begins turns := by
  induction turns generalizing f with
  | nil => rfl
  | cons turn turns ih =>
    have hstep : (f.step turn).controller.token.generation =
        f.controller.token.generation + (f.deeds turn).countP (·.2.isBegan) := by
      rcases deeds_cases f turn with ⟨-, j, caller, -, -, hs, hd⟩ | ⟨hd, halike⟩
      · rw [hs, hd, List.countP_map]
        exact Call.generation_doNext f.controller caller.call
      · rw [halike.generation, hd]
        rfl
    rw [run_cons, ih, hstep, begins, begins, story, List.countP_append, Nat.add_assoc]

/-- As long as fewer than `2 ^ 64` runs begin, a counter of 64 bits numbers the tickets of the calls. -/
theorem tickets_fit (channel : Channel) (log : EventLog) (pacing : Duration) (turns : List Turn)
    (few : (Floor.new (.new channel log pacing)).begins turns < UInt64.size) :
    let f := (Floor.new (.new channel log pacing)).run turns
    ∀ k ∈ f.tickets, k.generation < UInt64.size ∧ f.controller.token.supersedes k =
      (UInt64.ofNat f.controller.token.generation != UInt64.ofNat k.generation) := by
  refine (sound_run (sound_new channel log pacing) turns).owned.fit ?_
  rw [generation_run]
  exact (Nat.zero_add _).symm ▸ few

/-- What the story tells was done by a call that had the floor. -/
theorem mem_story {f : Floor} {turns : List Turn} {i : Nat} {e : Effect} (h : (i, e) ∈ f.story turns) :
    ∃ before after caller, turns = before ++ .work :: after ∧ (f.run before).holder = some i ∧
      (f.run before).callers[i]? = some caller ∧ e ∈ caller.call.effects (f.run before).controller := by
  induction turns generalizing f with
  | nil => cases h
  | cons turn turns ih =>
    rcases List.mem_append.1 h with h | h
    · rcases deeds_cases f turn with ⟨rfl, j, caller, hh, hc, -, hd⟩ | ⟨hd, -⟩
      · rw [hd] at h
        obtain ⟨e', he, heq⟩ := List.mem_map.1 h
        cases heq
        exact ⟨[], turns, caller, rfl, hh, hc, he⟩
      · rw [hd] at h
        cases h
    · obtain ⟨before, after, caller, rfl, hrest⟩ := ih h
      exact ⟨turn :: before, after, caller, rfl, hrest⟩

end Floor

end BlockPilot
