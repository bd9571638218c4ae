import BlockPilot.Proofs.Interrupted

/-!
# What still moves behind a stop

When a stop has raised its signal, every run that holds a ticket has to stop, and the calls of a
stop only send stop commands. A connection test does not look at the signal: one that sleeps while
the signal is raised goes on to drive back (`Floor.test_moves_behind_stop`). It is the only call
that moves the robot then (`Floor.motion_behind_stop`).
-/

namespace BlockPilot

def Request.isStop : Request → Bool
  | .stop | .emergencyStop => true
  | .run _ | .testConnection => false

def Command.isStop (command : Command) : Bool :=
  command == ⟨.stop, none⟩

/-- What a connection test sends behind its first command. -/
def Command.isReturn (command : Command) : Bool :=
  command == ⟨.backward, none⟩ || command == ⟨.stop, none⟩

/-- Whether a task sends no commands but `only` these. Nothing that a program asks for does, nor the
beginning of a connection test. -/
def Task.keepsTo (only : Command → Bool) : Task → Bool
  | .pause _ | .emit _ | .verdict => true
  | .send command => only command
  | .raise signal => signal != .none
  | _ => false

/-! ## One call -/

namespace Call

/-- Whether a call is going to raise a signal. -/
def isRaising (call : Call) : Bool :=
  match call.tasks with
  | .raise _ :: _ => true
  | _ => false

theorem isRaising_iff {call : Call} : call.isRaising = true ↔ ∃ s rest, call.tasks = .raise s :: rest := by
  unfold isRaising
  split
  · rename_i s rest h
    simp [h]
  · rename_i h
    simpa using fun s rest => h s rest

variable {c : Controller} {call : Call} {only : Command → Bool}

/-- All tasks of a call keep to some commands. -/
def KeepsTo (only : Command → Bool) (call : Call) : Prop :=
  ∀ t ∈ call.tasks, t.keepsTo only = true

theorem KeepsTo.of_over (h : call.tasks = []) : call.KeepsTo only := by
  simp [KeepsTo, h]

theorem KeepsTo.doNext (h : call.KeepsTo only) : (call.doNext c).2.KeepsTo only := by
  cases ht : call.tasks with
  | nil => rwa [doNext_nil ht]
  | cons task rest =>
    have hall : ∀ t ∈ task :: rest, t.keepsTo only = true := ht ▸ h
    have htask := hall task (List.mem_cons_self ..)
    have hrest : ∀ t ∈ rest, t.keepsTo only = true := fun t hm => hall t (List.mem_cons_of_mem _ hm)
    rw [doNext_cons ht]
    cases task with
    | pause | emit | raise | verdict => exact hrest
    | send command =>
      simp only [perform, doSend]
      split
      · intro t hm
        rcases List.mem_cons.1 hm with rfl | hm
        · rfl
        · exact hrest t hm
      · exact hrest
    | head | chain | loop | sequences | begin | conclude | finish | probe => cases htask

theorem KeepsTo.move {r : Controller × Call} (h : call.KeepsTo only) (m : call.Move c r) :
    r.2.KeepsTo only := by
  cases m with
  | next => exact h.doNext
  | drop => exact .of_over rfl

/-- A command is sent by the task that says so. -/
theorem front_of_sent {d : Dispatch} (h : .sent d ∈ call.effects c) :
    ∃ rest, call.tasks = .send d.command :: rest := by
  cases ht : call.tasks with
  | nil => simp [effects, ht] at h
  | cons task rest =>
    rw [effects_cons ht] at h
    cases hp : task.isPlain with
    | true =>
      have hw := (Plain.perform c { call with tasks := rest } hp).words _ h
      cases hw
    | false =>
      cases task with
      | send command =>
        simp only [perform, doSend] at h
        split at h
        · obtain rfl : d = ⟨command, c.clock⟩ := by simpa using h
          exact ⟨rest, rfl⟩
        · simp at h
      | begin p =>
        simp only [perform, doBegin] at h
        split at h <;> simp at h
      | conclude =>
        simp only [perform] at h
        split at h <;> simp at h
      | finish o => simp [perform, doFinish] at h
      | raise s => simp [perform] at h
      | pause | emit | head | chain | loop | sequences | probe | verdict => cases hp

theorem KeepsTo.sent {d : Dispatch} (h : call.KeepsTo only) (hd : .sent d ∈ call.effects c) :
    only d.command = true := by
  obtain ⟨rest, ht⟩ := front_of_sent hd
  exact h (.send d.command) (by simp [ht])

end Call

/-- A run that sleeps holds a ticket. -/
theorem RunStage.ticket_of_asleep {p : Program} {told : Bool} {call : Call}
    (h : RunStage p told call) (hs : call.isAsleep = true) : ∃ k, call.ticket = some k := by
  obtain ⟨n, rest, ht⟩ := Call.isAsleep_iff.1 hs
  cases h with
  | walking k w nodes at_ => exact ⟨k, at_.ticket⟩
  | settled k pauses at_ => exact ⟨k, at_.ticket⟩
  | asked at_ | refused at_ | halting _ _ _ at_ | closing _ _ at_ | stopped _ at_ | completed at_ | dropped _ at_ =>
    simp [at_.tasks] at ht

/-! ## What the calls can send -/

/-- A stop sends stop commands. A connection test has its first command before it, in front of it,
or behind it. -/
def Caller.Confined (caller : Caller) : Prop :=
  match caller.request with
  | .run _ => True
  | .stop | .emergencyStop => caller.call.KeepsTo Command.isStop
  | .testConnection =>
    caller.call.tasks = [.probe] ∨
      (∃ rest, caller.call.tasks = .send ⟨.forward, none⟩ :: rest ∧
        ∀ t ∈ rest, t.keepsTo Command.isReturn = true) ∨
      caller.call.KeepsTo Command.isReturn

namespace Caller.Confined

variable {caller : Caller}

theorem asked (request : Request) : Caller.Confined ⟨request, request.call⟩ := by
  cases request with
  | run p => trivial
  | stop =>
    show Call.stop.KeepsTo _
    simp [Call.KeepsTo, Call.stop, Call.ofTasks, Task.keepsTo, Command.isStop]
  | emergencyStop =>
    show Call.emergencyStop.KeepsTo _
    simp [Call.KeepsTo, Call.emergencyStop, Call.ofTasks, Task.keepsTo, Command.isStop]
  | testConnection => exact Or.inl rfl

theorem of_isStop (h : caller.Confined) (hs : caller.request.isStop = true) :
    caller.call.KeepsTo Command.isStop := by
  obtain ⟨request, call⟩ := caller
  cases request with
  | stop | emergencyStop => exact h
  | run | testConnection => cases hs

/-- A connection test that sleeps has sent its first command. -/
theorem of_asleep {test : Call} (h : Caller.Confined ⟨.testConnection, test⟩)
    (hs : test.isAsleep = true) : test.KeepsTo Command.isReturn := by
  obtain ⟨n, rest, ht⟩ := Call.isAsleep_iff.1 hs
  rcases h with hp | ⟨rest', hf, -⟩ | hk
  · exact absurd (ht.symm.trans hp) (by simp)
  · exact absurd (ht.symm.trans hf) (by simp)
  · exact hk

theorem move {c : Controller} {r : Controller × Call} (h : caller.Confined)
    (m : caller.call.Move c r) : Caller.Confined { caller with call := r.2 } := by
  obtain ⟨request, call⟩ := caller
  cases request with
  | run p => trivial
  | stop | emergencyStop => exact Call.KeepsTo.move h m
  | testConnection =>
    cases m with
    | drop => exact Or.inr (Or.inr (.of_over rfl))
    | next =>
      rcases h with hp | ⟨rest, hf, hrest⟩ | hk
      · show Caller.Confined ⟨.testConnection, (call.doNext c).2⟩
        rw [Call.doNext_cons hp]
        simp only [Call.perform, Call.doProbe]
        split
        · exact Or.inr (Or.inr (.of_over rfl))
        · refine Or.inr (Or.inl ⟨_, rfl, ?_⟩)
          simp [Task.keepsTo, Command.isReturn]
      · -- its first command is sent or refused, and the rest is left
        refine Or.inr (Or.inr ?_)
        show (call.doNext c).2.KeepsTo _
        rw [Call.doNext_cons hf]
        simp only [Call.perform, Call.doSend]
        split
        · intro t hm
          rcases List.mem_cons.1 hm with rfl | hm
          · rfl
          · exact hrest t hm
        · exact hrest
      · exact Or.inr (Or.inr (Call.KeepsTo.doNext hk))

end Caller.Confined

namespace Floor

variable {f : Floor}

def Confined (f : Floor) : Prop :=
  ∀ (i : Nat) (caller : Caller), f.callers[i]? = some caller → caller.Confined

theorem confined_new (c : Controller) : (Floor.new c).Confined := by
  intro i caller h
  simp [Floor.new] at h

theorem Confined.step (h : f.Confined) (turn : Turn) : (f.step turn).Confined := by
  intro i new hnew
  rcases step_caller hnew with hasked | ⟨old, hold, hr, hcall | ⟨r, hmove, -, hcall, -⟩⟩
  · rw [hasked]
    exact .asked _
  · obtain rfl : old = new := by
      cases old
      cases new
      simp_all
    exact h i old hold
  · obtain rfl : new = { old with call := r.2 } := by
      cases old
      cases new
      simp_all
    exact (h i old hold).move hmove

theorem confined_run (h : f.Confined) (turns : List Turn) : (f.run turns).Confined := by
  induction turns generalizing f with
  | nil => exact h
  | cons turn turns ih => exact ih (h.step turn)

/-- What a call keeps to, it keeps to. -/
theorem keepsTo_run {only : Command → Bool} {i : Nat} {caller : Caller}
    (h : f.callers[i]? = some caller) (hk : caller.call.KeepsTo only) (turns : List Turn) :
    ∃ new, (f.run turns).callers[i]? = some new ∧ new.call.KeepsTo only := by
  induction turns generalizing f caller with
  | nil => exact ⟨caller, h, hk⟩
  | cons turn turns ih =>
    obtain ⟨new, hnew, -, hcall⟩ := step_caller_of h turn
    have hkn : new.call.KeepsTo only := by
      rcases hcall with hcall | ⟨r, hmove, -, hcall⟩
      · rwa [hcall]
      · rw [hcall]
        exact hk.move hmove
    exact ih hnew hkn

/-- A command that is no stop is sent by a call that is no stop either and, while only stops are
asked for, has been there already. -/
theorem Confined.sender (h : f.Confined) {turns : List Turn} {n : Nat} {d : Dispatch}
    (hmem : (n, .sent d) ∈ f.story turns) (hact : d.command.action ≠ .stop)
    (later : ∀ caller ∈ (f.run turns).callers.drop f.callers.length, caller.request.isStop = true) :
    ∃ caller, f.callers[n]? = some caller ∧ caller.request.isStop = false ∧
      ∀ only, caller.call.KeepsTo only → only d.command = true := by
  obtain ⟨part, rest, sender, rfl, -, hsender, hd⟩ := mem_story hmem
  have hrequest : sender.request.isStop = false := by
    by_contra hne
    have hk := (confined_run h part n sender hsender).of_isStop (by simpa using hne)
    have hstop : d.command = ⟨.stop, none⟩ := by simpa [Command.isStop] using hk.sent hd
    exact hact (by rw [hstop])
  have hlt : n < f.callers.length := by
    by_contra hge
    obtain ⟨last, hlast, hr⟩ := run_caller_of hsender (.work :: rest)
    have hdrop := later last (List.mem_of_getElem? (i := n - f.callers.length) (by
      rw [List.getElem?_drop, Nat.add_sub_of_le (Nat.le_of_not_lt hge), run_append]
      exact hlast))
    rw [hr, hrequest] at hdrop
    cases hdrop
  have hcaller : f.callers[n]? = some f.callers[n] := List.getElem?_eq_getElem hlt
  refine ⟨_, hcaller, ?_, fun only hk => ?_⟩
  · obtain ⟨same, hsame, hr⟩ := run_caller_of hcaller part
    obtain rfl : same = sender := Option.some.inj (hsame.symm.trans hsender)
    rwa [← hr]
  · obtain ⟨same, hsame, hks⟩ := keepsTo_run hcaller hk part
    obtain rfl : same = sender := Option.some.inj (hsame.symm.trans hsender)
    exact hks.sent hd

/-! ## Raising a signal -/

/-- The call that has the floor is a stop that is going to raise its signal. -/
structure Raises (f : Floor) (i : Nat) : Prop where
  holder : f.holder = some i
  front : f.callers[i]?.any (fun caller => caller.request.isStop && caller.call.isRaising) = true

namespace Raises

variable {i : Nat}

theorem caller (h : f.Raises i) : ∃ caller s rest, f.callers[i]? = some caller ∧
    caller.request.isStop = true ∧ caller.call.tasks = .raise s :: rest := by
  have hfront := h.front
  cases hc : f.callers[i]? with
  | none => simp [hc] at hfront
  | some caller =>
    obtain ⟨hr, ht⟩ : caller.request.isStop = true ∧ caller.call.isRaising = true := by
      simpa [hc] using hfront
    obtain ⟨s, rest, ht⟩ := Call.isRaising_iff.1 ht
    exact ⟨caller, s, rest, rfl, hr, ht⟩

theorem deeds (h : f.Raises i) : ∃ s, f.deeds .work = [(i, .raised s)] := by
  obtain ⟨caller, s, rest, hc, -, ht⟩ := h.caller
  refine ⟨s, ?_⟩
  simp [Floor.deeds, h.holder, hc, Call.effects_cons ht, Call.perform]

/-- When the signal is raised, everybody who holds a ticket has to stop. -/
theorem isStopping (h : f.Raises i) (hf : f.Confined) :
    (f.step .work).controller.token.isStopping = true := by
  obtain ⟨caller, s, rest, hc, hr, ht⟩ := h.caller
  have hs : s ≠ .none := by
    simpa [Task.keepsTo] using (hf i caller hc).of_isStop hr (.raise s) (by simp [ht])
  have hstep : (f.step .work).controller = f.controller.raise s := by
    rw [step_work h.holder hc, Call.doNext_cons ht]
    rfl
  rw [hstep]
  cases s with
  | none => exact absurd rfl hs
  | cooperative =>
    cases hsig : f.controller.token.signal <;>
      simp [Controller.raise, Token.requestStop, Token.isStopping, hsig, StopSignal.max, StopSignal.urgency]
  | emergency =>
    cases hsig : f.controller.token.signal <;>
      simp [Controller.raise, Token.requestEmergencyStop, Token.isStopping, hsig, StopSignal.max,
        StopSignal.urgency]

variable {n : Nat} {caller : Caller}

/-- The other calls rest, and raising the signal leaves them as they are. -/
theorem others (h : f.Raises i) (hsound : f.Sound) (hn : f.callers[n]? = some caller)
    (hr : caller.request.isStop = false) :
    caller.call.isResting = true ∧ (f.step .work).callers[n]? = some caller := by
  obtain ⟨stop, s, rest, hc, hstop, -⟩ := h.caller
  have hni : i ≠ n := by
    rintro rfl
    obtain rfl : caller = stop := Option.some.inj (hn.symm.trans hc)
    rw [hr] at hstop
    cases hstop
  refine ⟨hsound.rests n _ hn (by simpa [h.holder] using hni), ?_⟩
  simp [Floor.step, h.holder, hc, put, List.getElem?_set_ne hni, hn]

/-- Behind a stop that has raised its signal, a run that sleeps has to stop. -/
theorem quells {p : Program} {call : Call} (h : f.Raises i) (hsound : f.Sound) (hf : f.Confined)
    (hn : f.callers[n]? = some ⟨.run p, call⟩) (hs : call.isAsleep = true) :
    call.stops (f.step .work).controller = true := by
  have hstage : RunStage p (call.stops f.controller) call := hsound.stage n _ hn
  obtain ⟨k, hk⟩ := hstage.ticket_of_asleep hs
  rw [Call.stops_of_some hk, Token.stops, h.isStopping hf, Bool.or_true]

/-- Behind a stop that has raised its signal, the only command other than a stop is the way back of
a connection test that slept then. -/
theorem drives_back (h : f.Raises i) (hsound : f.Sound) (hf : f.Confined) {turns : List Turn}
    {d : Dispatch} (hmem : (n, .sent d) ∈ f.story (.work :: turns)) (hact : d.command.action ≠ .stop)
    (later : ∀ caller ∈ (f.run (.work :: turns)).callers.drop f.callers.length,
      caller.request.isStop = true) :
    d.command = ⟨.backward, none⟩ ∧
      ∃ test, f.callers[n]? = some ⟨.testConnection, test⟩ ∧ test.isAsleep = true := by
  obtain ⟨⟨request, call⟩, hn, hr, keeps⟩ := hf.sender hmem hact later
  obtain ⟨hrests, hstep⟩ := h.others hsound hn hr
  have hasleep : call.isAsleep = true := by
    rcases Call.isResting_iff.1 hrests with ho | hp
    · -- a call that is over keeps to no commands at all
      exact absurd (keeps (fun _ => false) (.of_over ho)) (by simp)
    · exact Call.isAsleep_iff.2 hp
  cases request with
  | stop | emergencyStop => cases hr
  | testConnection =>
    -- nothing in the test looks at the signal: what it kept to while it slept is all that is known
    have hback : d.command = ⟨.backward, none⟩ ∨ d.command = ⟨.stop, none⟩ := by
      simpa [Command.isReturn] using keeps _ ((hf n _ hn).of_asleep hasleep)
    refine ⟨hback.resolve_right fun hs => hact (by rw [hs]), call, hn, hasleep⟩
  | run p =>
    have hstory : (n, .sent d) ∈ (f.step .work).story turns := by
      obtain ⟨s, hdeeds⟩ := h.deeds
      rcases List.mem_append.1 hmem with hm | hm
      · rw [hdeeds] at hm
        simp at hm
      · exact hm
    have hsilent := marks_of_silenced (hsound.step .work) hstep
      (Or.inl (h.quells hsound hf hn hasleep)) turns hstory
    cases hsilent

end Raises

/-- **Motion.** Take any calls of a controller and let them take turns in any order, with fewer than
`2 ^ 64` runs (`Floor.tickets_fit`). When a stop or an emergency stop has raised its signal, and
while no run and no connection test is asked for, the only command other than a stop that is sent is
the way back of a connection test that slept when the signal was raised. If all connection tests
were over, only stop commands are recorded. -/
theorem motion_behind_stop (channel : Channel) (log : EventLog) (pacing : Duration)
    (before after : List Turn) (i : Nat)
    (raises : ((Floor.new (.new channel log pacing)).run before).Raises i)
    (later : ∀ caller ∈ ((Floor.new (.new channel log pacing)).run (before ++ .work :: after)).callers.drop
      ((Floor.new (.new channel log pacing)).run before).callers.length, caller.request.isStop = true) :
    let f := (Floor.new (.new channel log pacing)).run before
    (∀ n d, (n, .sent d) ∈ f.story (.work :: after) → d.command.action ≠ .stop →
      d.command = ⟨.backward, none⟩ ∧
        ∃ test, f.callers[n]? = some ⟨.testConnection, test⟩ ∧ test.isAsleep = true) ∧
    (channel.isRecorder = true →
      (∀ caller ∈ f.callers, caller.request = .testConnection → caller.call.tasks = []) →
      ∃ new, (f.run (.work :: after)).controller.channel.records = new ++ f.controller.channel.records ∧
        ∀ d ∈ new, d.command.action = .stop) := by
  intro f
  have hsound : f.Sound := sound_run (sound_new channel log pacing) before
  have hf : f.Confined := confined_run (confined_new _) before
  rw [run_append] at later
  have moving : ∀ n d, (n, .sent d) ∈ f.story (.work :: after) → d.command.action ≠ .stop →
      d.command = ⟨.backward, none⟩ ∧
        ∃ test, f.callers[n]? = some ⟨.testConnection, test⟩ ∧ test.isAsleep = true :=
    fun n d hmem hact => raises.drives_back hsound hf hmem hact later
  refine ⟨moving, fun hrec hnone => ?_⟩
  refine ⟨_, records_run (isRecorder_run hrec before) (.work :: after), fun d hd => ?_⟩
  obtain ⟨⟨n, e⟩, hmem, he⟩ := List.mem_filterMap.1 (List.mem_reverse.1 hd)
  obtain rfl : e = .sent d := Effect.dispatch?_eq_some.1 he
  by_contra hact
  obtain ⟨-, test, htest, hasleep⟩ := moving n d hmem hact
  have hover : test.tasks = [] := hnone _ (List.mem_of_getElem? htest) rfl
  simp [Call.isAsleep, hover] at hasleep

/-- A run is stopped in the settle delay behind its first command, and a second stop comes. -/
theorem motion_behind_stop_in_settle :
    let before : List Turn := List.flatten
      [[.ask (.run (.ofChains [.move .forward, .move .left]))], List.replicate 5 .work,
        [.yield, .clock 20, .ask .stop]]
    let after : List Turn := List.flatten
      [[.work, .yield, .ask .emergencyStop, .work, .work, .yield, .clock 50, .wake 0],
        List.replicate 8 .work]
    let f := (Floor.new (.new (.recorder (.new 50)) (.new 8) 50)).run before
    f.controller.channel.records.length = 1 ∧
      (f.run (.work :: after)).controller.channel.records.length = 3 ∧
      ∃ new, (f.run (.work :: after)).controller.channel.records = new ++ f.controller.channel.records ∧
        ∀ d ∈ new, d.command.action = .stop := by
  intro before after f
  have hraises : f.Raises 1 := ⟨by decide +kernel, by decide +kernel⟩
  have hlater : (((Floor.new (.new (.recorder (.new 50)) (.new 8) 50)).run
      (before ++ .work :: after)).callers.drop ((Floor.new (.new (.recorder (.new 50)) (.new 8) 50)).run
        before).callers.length).all (·.request.isStop) = true := by decide +kernel
  have hover : ∀ caller ∈ f.callers, caller.request = .testConnection → caller.call.tasks = [] := by
    have htests : (f.callers.all fun caller => match caller.request with
        | .testConnection => caller.call.tasks.isEmpty
        | _ => true) = true := by decide +kernel
    intro caller hm htest
    simpa [htest] using List.all_eq_true.1 htests caller hm
  have hfirst : f.controller.channel.records.length = 1 := by decide +kernel
  have hlast : (f.run (.work :: after)).controller.channel.records.length = 3 := by decide +kernel
  have hmotion := motion_behind_stop (.recorder (.new 50)) (.new 8) 50 before after 1 hraises
    fun caller hm => List.all_eq_true.1 hlater caller hm
  have hstops := hmotion.2 rfl hover
  refine ⟨hfirst, hlast, ?_⟩
  subst f
  exact hstops

/-- A connection test drives forward and sleeps. A stop raises its signal and sends its command. The
test wakes and drives back. -/
theorem test_moves_behind_stop :
    let before : List Turn := [.ask .testConnection, .work, .work, .yield, .clock 50, .wake 0, .yield,
      .clock 100, .ask .stop]
    let after : List Turn := [.work, .yield, .clock 150, .wake 1, .work, .yield, .clock 450, .wake 0, .work]
    let f := (Floor.new (.new (.recorder (.new 50)) (.new 8) 50)).run before
    f.Raises 1 ∧ (f.run (.work :: after)).callers.length = f.callers.length ∧
      (f.run (.work :: after)).controller.channel.records =
        [⟨⟨.backward, none⟩, 450⟩, ⟨⟨.stop, none⟩, 100⟩] ++ f.controller.channel.records := by
  intro before after f
  exact ⟨⟨by decide +kernel, by decide +kernel⟩, by decide +kernel, by decide +kernel⟩

end Floor

end BlockPilot
