import BlockPilot.Proofs.FloorInv

/-!
# No call leaves the robot moving

While the last command that was recorded is no stop command, some call *owes* one: it has a stop
command among its tasks, or it is a run that need not stop and will send one at its end. A run loses
that debt only to a stop, which takes it over. So when all calls are over, the robot has been told
to stop last (`Floor.last_record_stops`).
-/

namespace BlockPilot

/-- The last command that was recorded stops the robot. -/
def Channel.AtRest (c : Channel) : Prop :=
  ∀ d, c.records.head? = some d → d.command = ⟨.stop, none⟩

/-- The channel is a recorder that takes every command. -/
def Channel.TakesAll (c : Channel) : Prop :=
  ∃ r, c = .recorder r ∧ r.reachable = true

/-- A call is going to stop the robot. -/
def Call.Owes (c : Controller) (call : Call) : Prop :=
  Task.halt ∈ call.tasks ∨
    ∃ k, call.ticket = some k ∧ c.token.stops k = false ∧ .conclude ∈ call.tasks

namespace Call

variable {c : Controller} {call : Call} {task : Task} {rest : List Task}

/-- Unless it is a stop, a task of any call leaves a run that goes on going. -/
theorem going_doNext (ht : call.tasks = task :: rest) (hr : ∀ s, task ≠ .raise s) {k : Ticket}
    (hrun : c.token.running = true) (hs : c.token.stops k = false) :
    (call.doNext c).1.token.stops k = false := by
  rw [doNext_cons ht]
  by_cases hb : ∃ p, task = .begin p
  · obtain ⟨p, rfl⟩ := hb
    have : c.token.begin? = none := Token.begin?_eq_none.2 hrun
    simpa [perform, doBegin, this] using hs
  by_cases hf : ∃ o, task = .finish o
  · obtain ⟨o, rfl⟩ := hf
    simp only [perform, doFinish]
    cases call.ticket with
    | none => exact hs
    | some l =>
      rw [Token.stops_eq_false] at hs ⊢
      simpa [Controller.apply, Controller.release] using hs
  have hq := (perform_quiet c { call with tasks := rest } (fun p h => hb ⟨p, h⟩) (fun o h => hf ⟨o, h⟩)
    hr).1
  simpa [Controller.token_foldl hq] using hs

end Call

/-! ## Debts of one call -/

namespace Caller.Stage

variable {c : Controller} {caller : Caller} {task : Task} {rest : List Task}

/-- Behind a command that does not stop the robot there is a debt. -/
theorem owes_behind_send (h : caller.Stage c) {command : Command}
    (ht : caller.call.tasks = .send command :: rest) (hc : command ≠ ⟨.stop, none⟩) :
    Task.halt ∈ rest ∨
      ∃ k, caller.call.ticket = some k ∧ c.token.stops k = false ∧ .conclude ∈ rest := by
  obtain ⟨request, call⟩ := caller
  have aside (h : Aside call) : Task.halt ∈ rest := by
    have hcov := h.covered
    rw [show call.tasks = _ from ht] at hcov
    exact hcov.1 (by simpa [Task.drives] using hc)
  cases request with
  | stop | emergencyStop | testConnection => exact Or.inl (aside h)
  | run p =>
    rcases (h : RunStage p (call.stops c) call) with ⟨at_⟩ | ⟨at_⟩ | ⟨k, w, nodes, at_, lined, going, halt⟩ |
      ⟨k, nodes, halt, at_⟩ | ⟨k, going, at_⟩ | ⟨k, pauses, at_, pause⟩ | ⟨nodes, at_⟩ | ⟨at_⟩ | ⟨cues, at_⟩
    case walking =>
      have hw := at_.tasks.symm.trans ht
      cases w with
      | nil => simp at hw
      | cons task w =>
        obtain ⟨rfl, rfl⟩ : task = .send command ∧ w ++ [.conclude] = rest := by simpa using hw
        refine Or.inr ⟨k, at_.ticket, ?_, by simp⟩
        rw [← Call.stops_of_some at_.ticket]
        cases hs : call.stops c with
        | false => rfl
        | true => simpa [Task.looks] using (halt hs).2 _ (List.mem_cons_self ..)
    case closing =>
      have hw := at_.tasks.symm.trans ht
      simp only [List.cons.injEq, Task.send.injEq] at hw
      exact absurd hw.1.symm hc
    case settled =>
      have hw := at_.tasks.symm.trans ht
      cases pauses with
      | nil => simp at hw
      | cons task pauses =>
        obtain ⟨n, rfl⟩ := pause task (by simp)
        simp at hw
    all_goals simpa using at_.tasks.symm.trans ht

/-- A stop takes the debts of all runs over. -/
theorem owes_behind_raise (h : caller.Stage c) {s : StopSignal}
    (ht : caller.call.tasks = .raise s :: rest) : Task.halt ∈ rest := by
  obtain ⟨request, call⟩ := caller
  have aside (h : Aside call) : Task.halt ∈ rest := by
    have hcov := h.covered
    rw [show call.tasks = _ from ht] at hcov
    exact hcov.1 rfl
  cases request with
  | stop | emergencyStop | testConnection => exact aside h
  | run p =>
    have h : RunStage p (call.stops c) call := h
    simpa [Task.looks, Task.acts] using h.front ht

/-- A call keeps its debt at every task but a command. -/
theorem owes_doNext (h : caller.Stage c) (ht : caller.call.tasks = task :: rest)
    (hs : ∀ command, task ≠ .send command) (ho : caller.call.Owes c) :
    (caller.call.doNext c).2.Owes (caller.call.doNext c).1 := by
  obtain ⟨request, call⟩ := caller
  have ht : call.tasks = task :: rest := ht
  have stays {t : Task} (hm : t ∈ call.tasks) (hne : t ≠ task) : t ∈ (call.doNext c).2.tasks := by
    rw [ht] at hm
    exact (Call.suffix_doNext ht).subset ((List.mem_cons.1 hm).resolve_left hne)
  rcases ho with hh | ⟨k, hk, hgo, hcon⟩
  · exact Or.inl (stays hh fun e => hs _ e.symm)
  · cases request with
    | stop | emergencyStop | testConnection =>
      have h : Aside call := h
      simpa [Task.isAside] using h.tasks _ hcon
    | run p =>
      have h : RunStage p (call.stops c) call := h
      have hgo' : call.stops c = false := by rw [Call.stops_of_some hk, hgo]
      by_cases hc : task = .conclude
      · subst hc
        left
        have : Call.stops { call with tasks := rest } c = false := hgo'
        rw [Call.doNext_cons ht]
        simp [Call.perform, this, Call.traced, Call.push, Task.halt]
      · have hcon' := stays hcon fun e => hc e.symm
        have hrest : rest ≠ [] := by
          rintro rfl
          rw [ht] at hcon
          exact hc (List.mem_singleton.1 hcon).symm
        have hf : task.looks = true ∨ task.acts = true := by
          rcases h.front ht with hl | ha | ⟨hr, -⟩
          · exact Or.inl hl
          · exact Or.inr ha
          · exact absurd hr hrest
        have hk' : (call.doNext c).2.ticket = some k := by
          rw [Call.ticket_doNext ht ?_ ?_, hk]
          · rintro q rfl
            simp [Task.looks, Task.acts] at hf
          · rintro o rfl
            simp [Task.looks, Task.acts] at hf
        refine Or.inr ⟨k, hk', ?_, hcon'⟩
        rw [← Call.stops_of_some hk', ← hgo']
        rcases (RunStage.doNext (c := c) h).2 with he | he
        · exact he
        · simp [show (call.doNext c).2.tasks = [] from he] at hcon'

end Caller.Stage

/-! ## Debts among all calls -/

/-- Whether a turn leaves every call alone that sleeps, and the channel as it is. -/
def Turn.isFair : Turn → Bool
  | .drop _ => false
  | .reach reachable => reachable
  | _ => true

namespace Floor

/-- Some call owes a stop. -/
def InDebt (f : Floor) : Prop :=
  ∃ (i : Nat) (caller : Caller), f.callers[i]? = some caller ∧ caller.call.Owes f.controller

/-- The robot was told to stop last, or some call owes that. -/
structure Paid (f : Floor) : Prop where
  sound : f.Sound
  takes : f.controller.channel.TakesAll
  debt : f.controller.channel.AtRest ∨ f.InDebt

namespace Paid

variable {f g : Floor}

/-- A command that is sent is paid for by the call that sends it. -/
theorem sent (h : f.Paid) {i : Nat} {caller : Caller} (here : f.callers[i]? = some caller)
    {command : Command} {rest : List Task} (ht : caller.call.tasks = .send command :: rest)
    (controller : g.controller = (caller.call.doNext f.controller).1)
    (callers : g.callers = f.callers.set i { caller with call := (caller.call.doNext f.controller).2 }) :
    g.controller.channel.TakesAll ∧ (g.controller.channel.AtRest ∨ g.InDebt) := by
  obtain ⟨r, hc, hr⟩ := h.takes
  have hi := (List.getElem?_eq_some_iff.1 here).1
  have ha : f.controller.channel.accepts command = true := by rw [hc]; exact hr
  have hp : Call.perform f.controller { caller.call with tasks := rest } (.send command) =
      ([.sent ⟨command, f.controller.clock⟩], Call.push { caller.call with tasks := rest }
        [.pause f.controller.channel.settle.nanoseconds]) := by
    simp [Call.perform, Call.doSend, ha]
  have hn := Call.doNext_cons (c := f.controller) ht
  rw [hp] at hn
  have hchannel : g.controller.channel = f.controller.channel.record ⟨command, f.controller.clock⟩ := by
    rw [controller, hn]
    rfl
  refine ⟨?_, ?_⟩
  · rw [hchannel, hc]
    exact ⟨_, rfl, hr⟩
  · by_cases hstop : command = ⟨.stop, none⟩
    · left
      intro d hd
      rw [hchannel, hc] at hd
      obtain rfl : ⟨command, f.controller.clock⟩ = d := by simpa [Channel.record, Channel.records] using hd
      exact hstop
    · refine Or.inr ⟨i, { caller with call := (caller.call.doNext f.controller).2 },
        by rw [callers, List.getElem?_set_self hi], ?_⟩
      rw [controller, hn]
      rcases (h.sound.stage i caller here).owes_behind_send ht hstop with hh | ⟨k, hk, hgo, hcon⟩
      · exact Or.inl (List.mem_append_right _ hh)
      · exact Or.inr ⟨k, hk, hgo, List.mem_append_right _ hcon⟩

/-- Any other task leaves the debts paid. -/
theorem unsent (h : f.Paid) {i : Nat} {caller : Caller} (here : f.callers[i]? = some caller)
    {task : Task} {rest : List Task} (ht : caller.call.tasks = task :: rest)
    (hs : ∀ command, task ≠ .send command)
    (controller : g.controller = (caller.call.doNext f.controller).1)
    (callers : g.callers = f.callers.set i { caller with call := (caller.call.doNext f.controller).2 }) :
    g.controller.channel.TakesAll ∧ (g.controller.channel.AtRest ∨ g.InDebt) := by
  have hi := (List.getElem?_eq_some_iff.1 here).1
  have hself : g.callers[i]? = some { caller with call := (caller.call.doNext f.controller).2 } := by
    rw [callers, List.getElem?_set_self hi]
  have hchannel : g.controller.channel = f.controller.channel := by
    rw [controller, Call.channel_doNext ht hs]
  refine ⟨by rw [hchannel]; exact h.takes, ?_⟩
  rw [hchannel]
  refine h.debt.imp_right ?_
  rintro ⟨j, x, hx, ho⟩
  have hstage := h.sound.stage i caller here
  by_cases hj : i = j
  · subst hj
    obtain rfl : caller = x := by simpa using here.symm.trans hx
    exact ⟨i, _, hself, by rw [controller]; exact hstage.owes_doNext ht hs ho⟩
  · have hx' : g.callers[j]? = some x := by rw [callers, List.getElem?_set_ne hj, hx]
    rcases ho with hh | ⟨k, hk, hgo, hcon⟩
    · exact ⟨j, x, hx', Or.inl hh⟩
    · by_cases hraise : ∃ s, task = .raise s
      · -- the stop has its own command behind it
        obtain ⟨s, rfl⟩ := hraise
        exact ⟨i, _, hself, Or.inl ((Call.suffix_doNext ht).subset (hstage.owes_behind_raise ht))⟩
      · have hrun := h.sound.owned.of_going (mem_tickets hx hk) hgo
        refine ⟨j, x, hx', Or.inr ⟨k, hk, ?_, hcon⟩⟩
        rw [controller]
        exact Call.going_doNext ht (fun s e => hraise ⟨s, e⟩) hrun hgo

theorem step (h : f.Paid) {turn : Turn} (ht : turn.isFair = true) : (f.step turn).Paid := by
  have hsound := h.sound.step turn
  rcases step_cases f turn with ⟨callers, token, channel, -⟩ | ⟨request, free, eq⟩ |
    ⟨i, caller, r, here, move, kept, floor, controller, callers, -⟩
  · have hdebt : f.InDebt → (f.step turn).InDebt := by
      rintro ⟨j, x, hx, ho⟩
      exact ⟨j, x, by rw [callers, hx], by simpa [Call.Owes, token] using ho⟩
    obtain ⟨r, hc, hr⟩ := h.takes
    rcases channel with channel | ⟨b, rfl, channel⟩
    · exact ⟨hsound, ⟨r, by rw [channel, hc], hr⟩, by rw [channel]; exact h.debt.imp_right hdebt⟩
    · refine ⟨hsound, ⟨{ r with reachable := b }, by rw [channel, hc]; rfl, ht⟩, ?_⟩
      refine Or.imp ?_ hdebt h.debt
      intro hrest d hd
      rw [channel, hc] at hd
      exact hrest d (by rw [hc]; exact hd)
  · rw [eq] at hsound ⊢
    refine ⟨hsound, h.takes, h.debt.imp_right ?_⟩
    rintro ⟨j, x, hx, ho⟩
    exact ⟨j, x, by rw [List.getElem?_append_left (List.getElem?_eq_some_iff.1 hx).1, hx], ho⟩
  · obtain rfl : r = caller.call.doNext f.controller := by
      rcases kept with rfl | hr
      · cases ht
      · exact hr
    cases hb : caller.call.tasks with
    | nil =>
      rw [Call.doNext_nil hb] at controller callers
      have hsame : (f.step turn).callers = f.callers := by
        obtain ⟨hi, hcaller⟩ := List.getElem?_eq_some_iff.1 here
        rw [callers, ← hcaller]
        exact List.set_getElem_self hi
      have hdebt : f.InDebt → (f.step turn).InDebt := by
        rintro ⟨j, x, hx, ho⟩
        exact ⟨j, x, by rw [hsame, hx], by rw [controller]; exact ho⟩
      refine ⟨hsound, ?_, ?_⟩
      · rw [controller]
        exact h.takes
      · rw [controller]
        exact h.debt.imp_right hdebt
    | cons task rest =>
      by_cases hs : ∃ command, task = .send command
      · obtain ⟨command, rfl⟩ := hs
        obtain ⟨htakes, hdebt⟩ := h.sent here hb controller callers
        exact ⟨hsound, htakes, hdebt⟩
      · obtain ⟨htakes, hdebt⟩ := h.unsent here hb (fun command e => hs ⟨command, e⟩) controller callers
        exact ⟨hsound, htakes, hdebt⟩

theorem run (h : f.Paid) {turns : List Turn} (ht : ∀ turn ∈ turns, turn.isFair = true) :
    (f.run turns).Paid := by
  induction turns generalizing f with
  | nil => exact h
  | cons turn turns ih =>
    exact ih (h.step (ht turn (by simp))) fun t hm => ht t (by simp [hm])

end Paid

/-- **The last stop.** Let any calls of a controller take turns in any order, with fewer than
`2 ^ 64` runs (`Floor.tickets_fit`), while no call is dropped and the recorder takes every
command. Whenever all calls are over and a command was recorded, the last one is a stop. -/
theorem last_record_stops (settle : Duration) (log : EventLog) (pacing : Duration) (turns : List Turn)
    (fair : ∀ turn ∈ turns, turn.isFair = true) :
    let f := (Floor.new (.new (.recorder (.new settle)) log pacing)).run turns
    (∀ caller ∈ f.callers, caller.call.tasks = []) →
      ∀ d, f.controller.channel.records.head? = some d → d.command = ⟨.stop, none⟩ := by
  intro f hover
  have hpaid : f.Paid := by
    refine Paid.run ⟨sound_new _ log pacing, ⟨.new settle, rfl, rfl⟩, Or.inl ?_⟩ fair
    intro d hd
    cases hd
  rcases hpaid.debt with hrest | ⟨i, caller, hi, ho⟩
  · exact hrest
  · have hnil := hover caller (List.mem_of_getElem? hi)
    rcases ho with hh | ⟨k, hk, hgo, hcon⟩
    · simp [hnil] at hh
    · simp [hnil] at hcon

/-- A run begins while a connection test sleeps, and an emergency stop comes between them. -/
theorem last_record_stops_in_emergency :
    let turns : List Turn := List.flatten
      [.ask .testConnection :: List.replicate 2 .work, [.yield, .ask (.run (.ofChains [.move .left]))],
        List.replicate 5 .work, [.yield, .ask .emergencyStop], List.replicate 4 .work, [.yield, .wake 0],
        List.replicate 7 .work, [.yield, .wake 1], List.replicate 5 .work]
    let f := (Floor.new (.new (.recorder (.new 5)) (.new 8) 0)).run turns
    f.controller.channel.records.length = 5 ∧
      ∀ d, f.controller.channel.records.head? = some d → d.command = ⟨.stop, none⟩ := by
  intro turns f
  have hfair : ∀ turn ∈ turns, turn.isFair = true := by decide +kernel
  have hover : (f.callers.all (·.call.tasks.isEmpty)) = true := by decide +kernel
  refine ⟨by decide +kernel, last_record_stops 5 (.new 8) 0 turns hfair fun caller hm => ?_⟩
  simpa using List.all_eq_true.1 hover caller hm

end Floor

end BlockPilot
