import BlockPilot.Proofs.LogHistory
import BlockPilot.Proofs.Story

/-!
# Room for events

A controller reserves the room for its events at once when it is made of a configuration. A valid configuration
asks for one event at least, but it may ask for any number, also for one whose room cannot be counted in bytes.
Then there is no controller (`Config.valid_without_room`). In all other cases there is one, and whatever is asked
of its log, and whichever calls it serves side by side, it retains as many of the newest events as the
configuration asks for (`Config.valid_gives_controller`).
-/

namespace BlockPilot

/-! ## The log behind effects -/

/-- What an effect asks of the log. -/
def Effect.logCalls : Effect → List LogCall
  | .began => [.clear]
  | e => (e.marks.flatMap Mark.events).map .emit

namespace EventLog

theorem after_append (log : EventLog) (calls calls' : List LogCall) :
    log.after (calls ++ calls') = (log.after calls).after calls' :=
  List.foldl_append

theorem after_emits (log : EventLog) (es : List Event) : log.after (es.map .emit) = es.foldl emit log :=
  List.foldl_map

theorem write_eq_after (log : EventLog) (e : Effect) : log.write e = log.after e.logCalls := by
  cases e with
  | began => rfl
  | planned | emitted | failed | sent | refused | raised | finished => exact (after_emits log _).symm

theorem foldl_write (log : EventLog) (effects : List Effect) :
    effects.foldl write log = log.after (effects.flatMap Effect.logCalls) := by
  induction effects generalizing log with
  | nil => rfl
  | cons e effects ih => rw [List.foldl_cons, ih, write_eq_after, List.flatMap_cons, after_append]

end EventLog

/-- What some turns ask of the log. -/
def Floor.logCalls (f : Floor) (turns : List Turn) : List LogCall :=
  (f.story turns).flatMap (·.2.logCalls)

/-- The calls that take turns do with the log what their story tells. -/
theorem Floor.log_run_after (f : Floor) (turns : List Turn) :
    (f.run turns).controller.log = f.controller.log.after (f.logCalls turns) := by
  rw [Floor.log_run, EventLog.foldl_write, Floor.logCalls, List.flatMap_map]

/-! ## Reserving room -/

namespace EventLog

/-- Whether the room for a number of events can be counted in bytes. -/
def HasRoom (n : Nat) : Prop := eventSize * n ≤ Int64.maxValue.toInt.toNat

instance (n : Nat) : Decidable (HasRoom n) := inferInstanceAs (Decidable (_ ≤ _))

theorem reserve?_eq {n : Nat} (h : 0 < n) : reserve? n = if HasRoom n then some (new n) else none := by
  have hroom : HasRoom n ↔ ¬ maxCapacity < max n 1 := by
    rw [HasRoom, Nat.not_lt, Nat.max_eq_left h, maxCapacity, Nat.le_div_iff_mul_le (by decide), Nat.mul_comm]
  by_cases hn : HasRoom n
  · rw [if_pos hn]
    exact reserve?_eq_some.2 ⟨Nat.not_lt.1 (hroom.1 hn), rfl⟩
  · rw [if_neg hn, Option.eq_none_iff_forall_ne_some]
    exact fun log hlog => hn (hroom.2 (Nat.not_lt.2 (reserve?_eq_some.1 hlog).1))

end EventLog

namespace Config

theorem eventBuffer_pos {c : Config} (h : c.problem? = none) : 0 < c.interpreter.eventBuffer := by
  unfold problem? at h
  split at h
  · cases h
  · split at h
    · cases h
    · split at h
      · cases h
      · omega

/-- **A valid configuration with room for its events gives a controller.** It has the channel and the pause after
each block, no run goes on, and its log is empty. Whatever is asked of the log, it retains the newest of the events
that are emitted behind the last clear, as many as the configuration asks for, or all of them if they are fewer; and
so it does behind any calls of the controller that take turns. Without the room there is no controller. -/
theorem valid_gives_controller {config : Config} (valid : config.problem? = none) (channel : Channel) :
    let n := config.interpreter.eventBuffer
    (EventLog.HasRoom n → ∃ c, Controller.ofConfig? channel config = some c ∧
      c.channel = channel ∧ c.pacing = config.interpreter.pacingDelay ∧ c.isRunning = false ∧ c.log.events = [] ∧
      (∀ calls, (c.log.after calls).events = (LogCall.recent calls).rtake n) ∧
      ∀ turns, ((Floor.new c).run turns).controller.log.events =
        (LogCall.recent ((Floor.new c).logCalls turns)).rtake n) ∧
    (¬ EventLog.HasRoom n → Controller.ofConfig? channel config = none) := by
  intro n
  have hpos : 0 < n := eventBuffer_pos valid
  have hretains (calls : List LogCall) :
      ((EventLog.new n).after calls).events = (LogCall.recent calls).rtake n := by
    rw [(EventLog.after_retains n calls).2, Nat.max_eq_left hpos]
  refine ⟨fun hroom => ?_, fun hroom => ?_⟩
  · refine ⟨.new channel (.new n) config.interpreter.pacingDelay, ?_, rfl, rfl, rfl, rfl, hretains,
      fun turns => ?_⟩
    · rw [Controller.ofConfig?, EventLog.reserve?_eq hpos, if_pos hroom, Option.map_some]
    · rw [Floor.log_run_after]
      exact hretains _
  · rw [Controller.ofConfig?, EventLog.reserve?_eq hpos, if_neg hroom, Option.map_none]

/-- The defaults with room for other numbers of events. -/
def withBuffer (n : Nat) : Config :=
  { defaults with interpreter := { defaults.interpreter with eventBuffer := n } }

/-- With room for two events, the two newest are retained of what is emitted behind a clear, and of a run with
two blocks those of its second block and of its end. -/
theorem valid_gives_controller_of_two :
    (withBuffer 2).problem? = none ∧ EventLog.HasRoom 2 ∧
    ∃ c, Controller.ofConfig? (.recorder (.new 0)) (withBuffer 2) = some c ∧
      (c.log.after [.emit ⟨.info, "a"⟩, .clear, .emit ⟨.info, "b"⟩, .emit ⟨.error, "c"⟩,
        .emit ⟨.info, "d"⟩]).events = [⟨.error, "c"⟩, ⟨.info, "d"⟩] ∧
      ((Floor.new c).run (.ask (.run (.ofChains [.block .stop Chain.stop])) :: List.replicate 20 .work)
        ).controller.log.events = [⟨.info, "Stop"⟩, ⟨.success, "Complete!"⟩] := by
  have hvalid : (withBuffer 2).problem? = none := by decide +kernel
  have hroom : EventLog.HasRoom 2 := by decide
  obtain ⟨c, hc, -, -, -, -, hretains, hruns⟩ := (valid_gives_controller hvalid (.recorder (.new 0))).1 hroom
  obtain rfl : c = .new (.recorder (.new 0)) (.new 2) 50 := Option.some.inj (hc.symm.trans rfl)
  refine ⟨hvalid, hroom, _, hc, (hretains _).trans ?_, (hruns _).trans ?_⟩
  · decide
  · decide +kernel

/-- A configuration that asks for more events than there is room for is valid, but gives no controller. -/
theorem valid_without_room :
    (withBuffer Int64.maxValue.toInt.toNat).problem? = none ∧
      (Controller.ofConfig? (.recorder (.new 50)) (withBuffer Int64.maxValue.toInt.toNat)).isNone = true := by
  decide +kernel

end Config

end BlockPilot
