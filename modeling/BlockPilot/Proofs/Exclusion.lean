import BlockPilot.Proofs.Motion
import BlockPilot.Proofs.Succession

/-!
# Runs and connection tests

A connection test looks once, where it begins, whether a run goes on. If one does, the test is over.
If none does, every run that is there already has to stop or is over, so that none of them is seen any
more. But nobody asks whether a test goes on: a run can begin while the test sleeps, and then the two
drive the robot in turns (`Floor.run_moves_inside_test`). So the only runs that get between the
commands of a test are those that were asked for behind its beginning
(`Floor.runs_and_tests_exclude`).
-/

namespace BlockPilot

/-- Who frees or keeps a token does not begin a run. -/
theorem Handed.generation_lt {t t' : Token} {k k' : Option Ticket} (h : Handed t t' k k')
    (hr : t.running = false) (hr' : t'.running = true) : t.generation < t'.generation := by
  cases h with
  | kept e =>
    rw [e, hr] at hr'
    cases hr'
  | stop e =>
    rw [e] at hr'
    exact absurd (hr.symm.trans hr') (by simp)
  | emergency e => simp [e, Token.requestEmergencyStop] at hr'
  | taken k e =>
    obtain ⟨-, -, hg, -⟩ := Token.begin?_eq_some e
    omega
  | back k e =>
    subst e
    unfold Token.release at hr'
    split at hr'
    · exact absurd (hr.symm.trans hr') (by simp)
    · simp at hr'

namespace Floor

variable {f : Floor} {n : Nat}

/-! ## A token that is free -/

theorem Sound.generation_lt_step (h : f.Sound) (hr : f.controller.token.running = false) (turn : Turn)
    (hr' : (f.step turn).controller.token.running = true) :
    f.controller.token.generation < (f.step turn).controller.token.generation := by
  rcases step_cases f turn with ⟨-, token⟩ | ⟨request, free, eq⟩ |
    ⟨i, caller, r, here, move, -, -, controller⟩
  · rw [token, hr] at hr'
    cases hr'
  · rw [eq] at hr'
    exact absurd (hr.symm.trans hr') (by simp)
  · rw [controller] at hr' ⊢
    exact (move.handed fun p rest ht => (h.stage i caller here).ticket_of_begin ht).generation_lt hr hr'

/-- Where no run went on and now one does, runs have begun meanwhile. -/
theorem generation_lt_run (h : f.Sound) (hr : f.controller.token.running = false) (turns : List Turn)
    (hr' : (f.run turns).controller.token.running = true) :
    f.controller.token.generation < (f.run turns).controller.token.generation := by
  induction turns using List.reverseRecOn with
  | nil => exact absurd (hr.symm.trans hr') (by simp)
  | append_singleton turns turn ih =>
    have hsound := sound_run h turns
    rw [run_append, run_cons, run_nil] at hr' ⊢
    cases hmid : (f.run turns).controller.token.running with
    | true => exact Nat.lt_of_lt_of_le (ih hmid) (hsound.later turn).generation
    | false =>
      exact Nat.lt_of_le_of_lt (later_run h turns).generation (hsound.generation_lt_step hmid turn hr')

/-! ## The beginning of a test -/

/-- The call that has the floor is a connection test that is going to look whether a run goes on. -/
structure Probes (f : Floor) (n : Nat) : Prop where
  holder : f.holder = some n
  front : ∃ test, f.callers[n]? = some ⟨.testConnection, test⟩ ∧ test.tasks = [.probe]

namespace Probes

theorem asked (h : f.holder = none) : (f.step (.ask .testConnection)).Probes f.callers.length := by
  refine ⟨by simp [step, h], .testConnection, ?_, rfl⟩
  simp [step, h, Request.call]

/-- A test that finds a run is over, and has only warned. -/
theorem refused (h : f.Probes n) (hr : f.controller.isRunning = true) :
    f.deeds .work =
        [(n, .emitted ⟨.warning, "Cannot test the connection while a program is running"⟩)] ∧
      ∃ test, (f.step .work).callers[n]? = some ⟨.testConnection, test⟩ ∧ test.tasks = [] ∧
        test.answer = some (.tested false) := by
  obtain ⟨test, hn, ht⟩ := h.front
  refine ⟨?_, (test.doNext f.controller).2, ?_, ?_⟩
  · simp [deeds, h.holder, hn, Call.effects_cons ht, Call.perform, Call.doProbe, hr]
  · rw [step_work h.holder hn, put_here hn]
  · rw [Call.doNext_cons ht]
    simp [Call.perform, Call.doProbe, hr, Call.traced]

/-- A test that finds no run goes on to its first command. -/
theorem accepted (h : f.Probes n) (hr : f.controller.isRunning = false) :
    f.deeds .work = [(n, .emitted ⟨.info, "Testing connection..."⟩)] ∧
      ∃ test, (f.step .work).callers[n]? = some ⟨.testConnection, test⟩ ∧
        test.tasks.head? = some (.send ⟨.forward, none⟩) := by
  obtain ⟨test, hn, ht⟩ := h.front
  refine ⟨?_, (test.doNext f.controller).2, ?_, ?_⟩
  · simp [deeds, h.holder, hn, Call.effects_cons ht, Call.perform, Call.doProbe, hr]
  · rw [step_work h.holder hn, put_here hn]
  · rw [Call.doNext_cons ht]
    simp [Call.perform, Call.doProbe, hr, Call.traced, Call.push]

/-- A run that is there when a test begins, and none goes on: it has had its ticket and has to stop,
or it is over. -/
theorem others (h : f.Probes n) (hsound : f.Sound) (hr : f.controller.isRunning = false) {i : Nat}
    {p : Program} {call : Call} (hi : f.callers[i]? = some ⟨.run p, call⟩) :
    (call.stops f.controller = true ∨ call.tasks = []) ∧ ∃ k, f.Served i k ∧
      k.generation ≤ f.controller.token.generation := by
  obtain ⟨test, hn, -⟩ := h.front
  have hni : n ≠ i := by
    rintro rfl
    cases hn.symm.trans hi
  have hrests : call.isResting = true := hsound.rests i _ hi (by simpa [h.holder] using hni)
  rcases Call.isResting_iff.1 hrests with ho | hs
  · exact ⟨Or.inr ho, ⟨0⟩, ⟨p, call, hi, Or.inr ho⟩, Nat.zero_le _⟩
  · have hstage : RunStage p (call.stops f.controller) call := hsound.stage i _ hi
    obtain ⟨k, hk⟩ := hstage.ticket_of_asleep (Call.isAsleep_iff.2 hs)
    have hmem : k ∈ f.tickets := mem_tickets hi hk
    refine ⟨Or.inl ?_, k, ⟨p, call, hi, Or.inl hk⟩, hsound.owned.known k hmem⟩
    -- a ticket that is not told to stop would own a running token
    rw [Call.stops_of_some hk]
    by_contra hgo
    exact absurd (hr.symm.trans (hsound.owned.of_going hmem (by simpa using hgo))) (by simp)

/-- Behind the beginning of a test that finds no run, commands of runs come from runs that were asked
for behind it. -/
theorem newer_of_sent (h : f.Probes n) (hsound : f.Sound) (hr : f.controller.isRunning = false)
    {turns : List Turn} {i : Nat} {d : Dispatch} {p : Program} {call : Call}
    (hmem : (i, .sent d) ∈ f.story turns) (hi : (f.run turns).callers[i]? = some ⟨.run p, call⟩) :
    f.callers.length ≤ i := by
  by_contra hlt
  have hold : f.callers[i]? = some f.callers[i] := List.getElem?_eq_getElem (Nat.lt_of_not_le hlt)
  obtain ⟨new, hnew, hrequest⟩ := run_caller_of hold turns
  cases hi.symm.trans hnew
  have hrun : f.callers[i]? = some ⟨.run p, f.callers[i].call⟩ := by
    rw [hold, show Request.run p = _ from hrequest]
  have hsilent := marks_of_silenced hsound hrun (h.others hsound hr hrun).1 turns hmem
  cases hsilent

/-- Where a run goes on behind the beginning of a test that found none, that run was asked for behind
it. -/
theorem newer_of_running (h : f.Probes n) (hsound : f.Sound) (hr : f.controller.isRunning = false)
    {turns : List Turn} (hnow : (f.run turns).controller.isRunning = true) :
    ∃ i p call k, f.callers.length ≤ i ∧ (f.run turns).callers[i]? = some ⟨.run p, call⟩ ∧
      call.ticket = some k ∧ k.generation = (f.run turns).controller.token.generation := by
  have hlast := sound_run hsound turns
  obtain ⟨k, hk, hg⟩ := hlast.owned.running hnow
  obtain ⟨caller, hmem, hticket⟩ := List.mem_filterMap.1 hk
  obtain ⟨i, hi⟩ := List.mem_iff_getElem?.1 hmem
  obtain ⟨p, call, hrun, hheld⟩ := hlast.served_of_holds (holds_iff.2 ⟨caller, hi, hticket⟩)
  obtain rfl : caller = ⟨.run p, call⟩ := by simpa using hi.symm.trans hrun
  refine ⟨i, p, call, k, ?_, hi, hticket, hg.symm⟩
  -- the ticket of a run that was there is too old
  by_contra hlt
  have hold : f.callers[i]? = some f.callers[i] := List.getElem?_eq_getElem (Nat.lt_of_not_le hlt)
  obtain ⟨new, hnew, hrequest⟩ := run_caller_of hold turns
  cases hi.symm.trans hnew
  have hthere : f.callers[i]? = some ⟨.run p, f.callers[i].call⟩ := by
    rw [hold, show Request.run p = _ from hrequest]
  obtain ⟨-, l, hserved, hle⟩ := h.others hsound hr hthere
  obtain ⟨q, last, hlast', hs⟩ := served_run hsound hserved turns
  cases hi.symm.trans hlast'
  have hlt := generation_lt_run hsound hr turns hnow
  rcases hs with hs | ho
  · obtain rfl : l = k := by simpa using hs.symm.trans hticket
    omega
  · have hstage : RunStage p (call.stops (f.run turns).controller) call := hlast.stage i _ hi
    exact absurd (hticket.symm.trans (hstage.ticket_of_over ho)) (by simp)

end Probes

/-! ## Exclusion -/

/-- **Exclusion.** Take any calls of a controller and let them take turns in any order, with fewer
than `2 ^ 64` runs (`Floor.tickets_fit`). A connection test that finds a run going on where it begins
is refused and sends nothing. Behind the beginning of one that finds none, every command of a run
comes from a run that was asked for behind that beginning, and so is every run that goes on where the
test sends a command. -/
theorem runs_and_tests_exclude (channel : Channel) (log : EventLog) (pacing : Duration)
    (before after : List Turn) (n : Nat)
    (probes : ((Floor.new (.new channel log pacing)).run before).Probes n) :
    let f := (Floor.new (.new channel log pacing)).run before
    (f.controller.isRunning = true →
      (∃ test, (f.step .work).callers[n]? = some ⟨.testConnection, test⟩ ∧
        test.answer = some (.tested false)) ∧
      ∀ d, (n, .sent d) ∉ f.story (.work :: after)) ∧
    (f.controller.isRunning = false →
      (∃ test, (f.step .work).callers[n]? = some ⟨.testConnection, test⟩ ∧
        test.tasks.head? = some (.send ⟨.forward, none⟩)) ∧
      (∀ i d p call, (i, .sent d) ∈ f.story (.work :: after) →
        (f.run (.work :: after)).callers[i]? = some ⟨.run p, call⟩ → f.callers.length ≤ i) ∧
      ∀ part rest d, .work :: after = part ++ .work :: rest → (n, .sent d) ∈ (f.run part).deeds .work →
        (f.run part).controller.isRunning = true →
        ∃ i p call k, f.callers.length ≤ i ∧ (f.run part).callers[i]? = some ⟨.run p, call⟩ ∧
          call.ticket = some k ∧ k.generation = (f.run part).controller.token.generation) := by
  intro f
  have hsound : f.Sound := sound_run (sound_new channel log pacing) before
  refine ⟨fun hr => ?_, fun hr => ⟨(probes.accepted hr).2, ?_, ?_⟩⟩
  · obtain ⟨hdeeds, test, hn, ho, ha⟩ := probes.refused hr
    refine ⟨⟨test, hn, ha⟩, fun d hmem => ?_⟩
    rcases List.mem_append.1 hmem with hmem | hmem
    · rw [show f.deeds .work = _ from hdeeds] at hmem
      simp at hmem
    · -- a call that is over keeps to no commands at all
      have hover : Call.KeepsTo (fun _ => false) test := .of_over ho
      obtain ⟨part, rest, sender, -, -, hsender, hd⟩ := mem_story hmem
      obtain ⟨same, hsame, hk⟩ := keepsTo_run hn hover part
      obtain rfl : same = sender := Option.some.inj (hsame.symm.trans hsender)
      exact absurd (hk.sent hd) (by simp)
  · intro i d p call hmem hi
    exact probes.newer_of_sent hsound hr hmem hi
  · intro part rest d _ _ hnow
    exact probes.newer_of_running hsound hr hnow

/-- A test begins behind an emergency stop while the run that was stopped still sleeps. The old run
wakes and is not seen; the only run that drives is the one that is asked for then. -/
theorem runs_and_tests_exclude_behind_emergency :
    let before : List Turn := List.flatten
      [[.ask (.run (.ofChains [.move .right, .move .left]))], List.replicate 5 .work,
        [.yield, .ask .emergencyStop, .work, .work, .yield]]
    let after : List Turn := List.flatten
      [[.work, .yield, .wake 0, .yield, .wake 0], List.replicate 4 .work,
        [.yield, .ask (.run (.ofChains [.move .left]))], List.replicate 5 .work,
        [.yield, .wake 2, .yield, .wake 2, .work]]
    let f := (Floor.new (.new (.recorder (.new 50)) (.new 8) 50)).run (before ++ [.ask .testConnection])
    f.controller.isRunning = false ∧
      (f.run (.work :: after)).controller.channel.records.map (·.command.action) =
        [.backward, .left, .forward, .stop, .right] ∧
      ∀ i d p call, (i, .sent d) ∈ f.story (.work :: after) →
        (f.run (.work :: after)).callers[i]? = some ⟨.run p, call⟩ → 3 ≤ i := by
  intro before after f
  have hfree : ((Floor.new (.new (.recorder (.new 50)) (.new 8) 50)).run before).holder = none := by
    decide +kernel
  have hlength : ((Floor.new (.new (.recorder (.new 50)) (.new 8) 50)).run before).callers.length = 2 := by
    decide +kernel
  have hprobes : f.Probes 2 := by
    have hasked := Probes.asked hfree
    rw [hlength] at hasked
    simpa only [f, run_append, run_cons, run_nil] using hasked
  have hidle : f.controller.isRunning = false := by decide +kernel
  have hcallers : f.callers.length = 3 := by decide +kernel
  have hexclude := runs_and_tests_exclude (.recorder (.new 50)) (.new 8) 50
    (before ++ [.ask .testConnection]) after 2 hprobes
  have hnewer := (hexclude.2 hidle).2.1
  rw [show ((Floor.new (.new (.recorder (.new 50)) (.new 8) 50)).run
    (before ++ [.ask .testConnection])).callers.length = 3 from hcallers] at hnewer
  exact ⟨hidle, by decide +kernel, hnewer⟩

/-- A connection test drives forward and sleeps. A run begins and drives left. The test wakes and
drives back while the run goes on. -/
theorem run_moves_inside_test :
    let turns : List Turn := List.flatten
      [[.ask .testConnection, .work, .work, .yield, .clock 50, .wake 0, .yield, .clock 100,
        .ask (.run (.ofChains [.move .left]))], List.replicate 5 .work, [.yield, .clock 150, .wake 1,
        .yield, .clock 450, .wake 0]]
    let f := (Floor.new (.new (.recorder (.new 50)) (.new 8) 400)).run turns
    f.controller.isRunning = true ∧
      (f.step .work).controller.channel.records =
        [⟨⟨.backward, none⟩, 450⟩, ⟨⟨.left, none⟩, 100⟩, ⟨⟨.forward, none⟩, 0⟩] ∧
      f.deeds .work = [(0, .sent ⟨⟨.backward, none⟩, 450⟩)] := by
  intro turns f
  exact ⟨by decide +kernel, by decide +kernel, rfl⟩

end Floor

end BlockPilot
