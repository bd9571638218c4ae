import BlockPilot.Event.Log
import Mathlib.Data.List.DropRight

/-!
# What a log tells of its history

A log is asked one thing after another. What it retains is the end of what was emitted since it was cleared
last, as much as it has room for (`EventLog.keeps_newest`). A subscriber's drains divide what is emitted
behind its subscription into portions, and each drain gives the end of its portion and the number of the
events in front of that (`EventLog.subscriber_accounts`). Neither depends on the other: a clear takes nothing
from a subscriber, and a drain nothing from the log.
-/

namespace BlockPilot

/-- What can be asked of a log. All clones of a log are one log: to make one changes nothing, and it does not
matter through which of them the log is asked. -/
inductive LogCall where
  | clone
  | emit (e : Event)
  /-- A message, emitted by the function for its severity. -/
  | say (severity : Severity) (message : String)
  | clear
  | snapshot
  | count (severity : Severity)
  | subscribe
  | drain (id : Nat)
  deriving DecidableEq

inductive LogAnswer where
  | done
  | retained (events : List Event)
  | number (n : Nat)
  | feed (f : Feed)
  /-- There is no such subscriber. -/
  | unknown

namespace LogCall

def emitted? : LogCall → Option Event
  | .emit e => some e
  | .say severity message => some ⟨severity, message⟩
  | _ => none

/-- The events that calls emit, oldest first. -/
def emitted (calls : List LogCall) : List Event := calls.filterMap emitted?

/-- The events that calls emit behind the last clear. -/
def recent (calls : List LogCall) : List Event := emitted (calls.rtakeWhile (· != .clear))

@[simp] theorem emitted_nil : emitted [] = [] := rfl

@[simp] theorem emitted_append (calls calls' : List LogCall) :
    emitted (calls ++ calls') = emitted calls ++ emitted calls' := by simp [emitted]

@[simp] theorem recent_nil : recent [] = [] := by simp [recent]

@[simp] theorem recent_clear (calls : List LogCall) : recent (calls ++ [.clear]) = [] := by
  rw [recent, List.rtakeWhile_concat_neg _ _ _ (by simp), emitted_nil]

theorem recent_concat {call : LogCall} (h : call ≠ .clear) (calls : List LogCall) :
    recent (calls ++ [call]) = recent calls ++ emitted [call] := by
  rw [recent, List.rtakeWhile_concat_pos _ _ _ (by simpa using h), emitted_append, recent]

/-- What calls emit, divided where a subscriber is drained. -/
def portions (id : Nat) (calls : List LogCall) : List (List Event) :=
  (calls.splitOnP (· == .drain id)).map emitted

@[simp] theorem portions_nil (id : Nat) : portions id [] = [[]] := rfl

@[simp] theorem portions_drain (id : Nat) (calls : List LogCall) :
    portions id (.drain id :: calls) = [] :: portions id calls := by
  simp [portions, List.splitOnP_cons_eq_if_modifyHead]

theorem portions_ne_nil (id : Nat) (calls : List LogCall) : portions id calls ≠ [] := by
  simp [portions, List.splitOnP_ne_nil]

theorem portions_cons {id : Nat} {call : LogCall} (h : call ≠ .drain id) (calls : List LogCall) :
    portions id (call :: calls) = (portions id calls).modifyHead (emitted [call] ++ ·) := by
  rw [portions, portions, List.splitOnP_cons_eq_if_modifyHead, if_neg (by simpa using h)]
  cases calls.splitOnP (· == .drain id) with
  | nil => rfl
  | cons first rest => exact congrArg (· :: rest.map emitted) (emitted_append [call] first)

/-- The portions are all that is emitted. -/
theorem flatten_portions (id : Nat) (calls : List LogCall) : (portions id calls).flatten = emitted calls := by
  induction calls with
  | nil => rfl
  | cons call calls ih =>
    by_cases hcall : call = .drain id
    · subst hcall
      rw [portions_drain, List.flatten_cons, List.nil_append, ih]
      rfl
    · obtain ⟨first, rest, hparts⟩ := List.exists_cons_of_ne_nil (portions_ne_nil id calls)
      have hcons : emitted (call :: calls) = emitted [call] ++ emitted calls := emitted_append [call] calls
      rw [hcons, ← ih, portions_cons hcall, hparts]
      simp

end LogCall

/-! ## The end of a list -/

section

variable {α : Type} {n : Nat}

theorem length_rtake (es : List α) : (es.rtake n).length = min es.length n := by
  simp only [List.rtake, List.length_drop]
  omega

/-- With an element more, the end of a list loses its first one if it was full. -/
theorem rtake_concat (es : List α) (e : α) :
    (es ++ [e]).rtake n = if n ≤ es.length then (es.rtake n ++ [e]).tail else es.rtake n ++ [e] := by
  simp only [List.rtake, List.length_append, List.length_singleton]
  split
  · rw [← List.drop_append_of_le_length (by omega), List.tail_drop]
    congr 1
    omega
  · have hall : es.length - n = 0 := by omega
    have hmore : es.length + 1 - n = 0 := by omega
    rw [hall, hmore, List.drop_zero, List.drop_zero]

end

namespace EventLog

/-- The log behind a message, by the function for its severity. -/
def say (log : EventLog) : Severity → String → EventLog
  | .info => log.info
  | .success => log.success
  | .warning => log.warning
  | .error => log.error

/-- Each of the four functions emits with its own severity. -/
theorem say_eq (log : EventLog) (severity : Severity) (message : String) :
    log.say severity message = log.emit ⟨severity, message⟩ := by
  cases severity <;> rfl

/-- What a log answers, and the log behind the call. -/
def serve (log : EventLog) : LogCall → LogAnswer × EventLog
  | .clone => (.done, log)
  | .emit e => (.done, log.emit e)
  | .say severity message => (.done, log.say severity message)
  | .clear => (.done, log.clear)
  | .snapshot => (.retained log.events, log)
  | .count severity => (.number (log.count severity), log)
  | .subscribe => (.number log.subscribe.2, log.subscribe.1)
  | .drain id => match log.drain? id with
    | some (feed, log) => (.feed feed, log)
    | none => (.unknown, log)

/-- The log behind some calls. -/
def after (log : EventLog) (calls : List LogCall) : EventLog :=
  calls.foldl (fun log call => (log.serve call).2) log

@[simp] theorem after_nil (log : EventLog) : log.after [] = log := rfl

@[simp] theorem after_cons (log : EventLog) (call : LogCall) (calls : List LogCall) :
    log.after (call :: calls) = (log.serve call).2.after calls := rfl

@[simp] theorem after_concat (log : EventLog) (call : LogCall) (calls : List LogCall) :
    log.after (calls ++ [call]) = ((log.after calls).serve call).2 := by
  simp [after]

/-! ## Retained events -/

/-- A log that has the end of some events has the end of them with one more. -/
theorem retain_rtake {n : Nat} (hn : 0 < n) (es : List Event) (e : Event) :
    retain n (es.rtake n) e = (es ++ [e]).rtake n := by
  rw [retain, length_rtake, rtake_concat]
  by_cases hfull : n ≤ es.length
  · have hne : es.rtake n ≠ [] := by
      intro hnil
      have := length_rtake (n := n) es
      rw [hnil, List.length_nil] at this
      omega
    rw [if_pos (by omega), if_pos hfull, List.tail_append_of_ne_nil hne]
  · rw [if_neg (by omega), if_neg hfull]

/-- Only to emit and to clear changes what is retained. -/
theorem serve_quiet (log : EventLog) {call : LogCall} (hclear : call ≠ .clear)
    (hemit : LogCall.emitted [call] = []) :
    (log.serve call).2.capacity = log.capacity ∧ (log.serve call).2.events = log.events := by
  cases call with
  | emit | say => cases hemit
  | clear => exact absurd rfl hclear
  | drain id =>
    simp only [serve, drain?]
    cases log.feeds[id]? <;> exact ⟨rfl, rfl⟩
  | _ => exact ⟨rfl, rfl⟩

/-- A log that has the end of what was emitted has it behind one event more. -/
theorem retains_emit {log : EventLog} {c : Nat} {calls : List LogCall} (e : Event) {call : LogCall}
    (hcapacity : log.capacity = max c 1) (hevents : log.events = (LogCall.recent calls).rtake (max c 1))
    (hcall : call ≠ .clear) (he : LogCall.emitted [call] = [e]) :
    (log.emit e).capacity = max c 1 ∧
      (log.emit e).events = (LogCall.recent (calls ++ [call])).rtake (max c 1) := by
  refine ⟨hcapacity, ?_⟩
  rw [LogCall.recent_concat hcall, he, ← retain_rtake (by omega), ← hevents, ← hcapacity]
  rfl

/-- What calls leave in a log that was empty. -/
theorem after_retains (c : Nat) (calls : List LogCall) : ((new c).after calls).capacity = max c 1 ∧
    ((new c).after calls).events = (LogCall.recent calls).rtake (max c 1) := by
  induction calls using List.reverseRecOn with
  | nil => simp [new]
  | append_singleton calls call ih =>
    obtain ⟨hcapacity, hevents⟩ := ih
    rw [after_concat]
    cases call with
    | clear => simpa [serve, clear] using hcapacity
    | emit e => exact retains_emit e hcapacity hevents (by simp) rfl
    | say severity message =>
      rw [serve, say_eq]
      exact retains_emit _ hcapacity hevents (by simp) rfl
    | _ =>
      rw [LogCall.recent_concat (by simp)]
      refine ⟨(serve_quiet _ (by simp) rfl).1.trans hcapacity,
        (serve_quiet _ (by simp) rfl).2.trans (hevents.trans ?_)⟩
      exact congrArg (List.rtake · _) (List.append_nil _).symm

/-- **The newest events are retained.** Whatever is asked of a log, also of one whose room was reserved
at once (`reserve?_eq_some`), it holds the newest of the events that were emitted since it was cleared last, in
their order: as many as its capacity, which is one at least, or all of them if they are fewer. A snapshot gives
these, and a count how many of them have the severity. -/
theorem keeps_newest (c : Nat) (calls : List LogCall) :
    let log := (new c).after calls
    let kept := (LogCall.recent calls).rtake (max c 1)
    (log.serve .snapshot).1 = .retained kept ∧
    (∀ severity, (log.serve (.count severity)).1 = .number (kept.countP (·.severity == severity))) ∧
    log.events.length = min (LogCall.recent calls).length (max c 1) := by
  intro log kept
  have hevents : log.events = kept := (after_retains c calls).2
  refine ⟨?_, fun severity => ?_, ?_⟩
  · rw [serve, hevents]
  · rw [serve, count, hevents, List.countP_eq_length_filter]
  · rw [hevents, length_rtake]

/-- A log of no event is one of one event; the second event takes the place of the first one behind the
clear. -/
example : ((new 0).after [.emit ⟨.info, "a"⟩, .clear, .emit ⟨.error, "b"⟩, .emit ⟨.info, "c"⟩]).events =
    [⟨.info, "c"⟩] := by decide

end EventLog

/-! ## Subscribers -/

namespace Feed

/-- What a subscriber is given of the events that are emitted between two drains. -/
def ofEvents (es : List Event) : Feed := ⟨es.rtake limit, es.length - min es.length limit⟩

@[simp] theorem ofEvents_nil : ofEvents [] = empty := rfl

theorem push_ofEvents (es : List Event) (e : Event) : (ofEvents es).push e = ofEvents (es ++ [e]) := by
  rw [push, ofEvents, ofEvents, rtake_concat, List.length_append, List.length_append, length_rtake,
    List.length_singleton]
  by_cases hfull : limit ≤ es.length
  · have hmissed : es.length - min es.length limit + 1 = es.length + 1 - min (es.length + 1) limit := by omega
    rw [if_pos (by omega), if_pos hfull, hmissed]
  · have hmissed : es.length - min es.length limit = es.length + 1 - min (es.length + 1) limit := by omega
    rw [if_neg (by omega), if_neg hfull, hmissed]

end Feed

namespace EventLog

/-- Calls with their answers. -/
def exchanges : EventLog → List LogCall → List (LogCall × LogAnswer)
  | _, [] => []
  | log, call :: calls => (call, (log.serve call).1) :: (log.serve call).2.exchanges calls

/-- What the drains of a subscriber give. -/
def drains (log : EventLog) (id : Nat) (calls : List LogCall) : List LogAnswer :=
  ((log.exchanges calls).filter (·.1 == .drain id)).map (·.2)

@[simp] theorem drains_nil (log : EventLog) (id : Nat) : log.drains id [] = [] := rfl

@[simp] theorem drains_cons_self (log : EventLog) (id : Nat) (calls : List LogCall) :
    log.drains id (.drain id :: calls) =
      (log.serve (.drain id)).1 :: (log.serve (.drain id)).2.drains id calls := by
  simp [drains, exchanges]

theorem drains_cons_of_ne (log : EventLog) {id : Nat} {call : LogCall} (h : call ≠ .drain id)
    (calls : List LogCall) : log.drains id (call :: calls) = (log.serve call).2.drains id calls := by
  simp [drains, exchanges, h]

/-- A subscriber that has not been given some events yet is given them with what is emitted next. -/
theorem feeds_serve {log : EventLog} {id : Nat} {es : List Event} {call : LogCall}
    (h : log.feeds[id]? = some (.ofEvents es)) (hcall : call ≠ .drain id) :
    (log.serve call).2.feeds[id]? = some (.ofEvents (es ++ LogCall.emitted [call])) := by
  have hsame : es ++ [] = es := List.append_nil es
  have hpush (e : Event) : (log.emit e).feeds[id]? = some (.ofEvents (es ++ [e])) := by
    have hmap : (log.emit e).feeds[id]? = log.feeds[id]?.map (·.push e) := List.getElem?_map
    rw [hmap, h, Option.map_some, Feed.push_ofEvents]
  cases call with
  | emit e => exact hpush e
  | say severity message =>
    rw [serve, say_eq]
    exact hpush _
  | subscribe =>
    obtain ⟨hid, -⟩ := List.getElem?_eq_some_iff.1 h
    have hmore : (log.serve .subscribe).2.feeds[id]? = (log.feeds ++ [.empty])[id]? := rfl
    rw [hmore, List.getElem?_append_left hid, h]
    exact congrArg (some <| Feed.ofEvents ·) hsame.symm
  | drain other =>
    have hother : other ≠ id := fun heq => hcall (heq ▸ rfl)
    simp only [serve, drain?]
    cases log.feeds[other]? with
    | none => exact h.trans (congrArg (some <| Feed.ofEvents ·) hsame.symm)
    | some feed =>
      show (log.feeds.set other .empty)[id]? = _
      rw [List.getElem?_set_ne hother, h]
      exact congrArg (some <| Feed.ofEvents ·) hsame.symm
  | _ => exact h.trans (congrArg (some <| Feed.ofEvents ·) hsame.symm)

/-- The drains of a subscriber give the portions that they make of what is emitted, the first of them with what
the subscriber was not given before. -/
theorem drains_eq {log : EventLog} {id : Nat} {es : List Event} (h : log.feeds[id]? = some (.ofEvents es))
    (calls : List LogCall) : log.drains id (calls ++ [.drain id]) =
      ((LogCall.portions id calls).modifyHead (es ++ ·)).map fun portion => .feed (.ofEvents portion) := by
  have hdrain {log : EventLog} {es : List Event} (h : log.feeds[id]? = some (.ofEvents es)) :
      log.serve (.drain id) = (.feed (.ofEvents es), { log with feeds := log.feeds.set id .empty }) := by
    simp [serve, drain?, h]
  induction calls generalizing log es with
  | nil => simp [hdrain h]
  | cons call calls ih =>
    obtain ⟨first, rest, hparts⟩ := List.exists_cons_of_ne_nil (LogCall.portions_ne_nil id calls)
    rw [hparts] at ih
    rw [List.cons_append]
    by_cases hcall : call = .drain id
    · subst hcall
      have hid : id < log.feeds.length := (List.getElem?_eq_some_iff.1 h).1
      have hempty : (log.feeds.set id .empty)[id]? = some (Feed.ofEvents []) := by simp [hid]
      rw [drains_cons_self, hdrain h, ih hempty, LogCall.portions_drain, hparts]
      simp
    · rw [drains_cons_of_ne _ hcall, ih (feeds_serve h hcall), LogCall.portions_cons hcall, hparts]
      simp

theorem length_feeds (c : Nat) (calls : List LogCall) :
    ((new c).after calls).feeds.length = calls.count .subscribe := by
  induction calls using List.reverseRecOn with
  | nil => rfl
  | append_singleton calls call ih =>
    rw [after_concat, List.count_append, ← ih]
    cases call with
    | drain id =>
      simp only [serve, drain?]
      cases ((new c).after calls).feeds[id]? <;> simp
    | _ => simp [serve, say_eq, emit, clear, subscribe]

/-- **Every subscriber accounts for every event.** Whatever is asked of a log, a new subscriber gets the next
number. Its drains divide all that is emitted behind its subscription into portions, and each of them gives of
its portion the newest 256 events in their order, and how many others there were. So what it is given does not
depend on the capacity of the log, on the clears, or on other subscribers. -/
theorem subscriber_accounts (c : Nat) (before calls : List LogCall) :
    let log := (new c).after before
    let id := before.count .subscribe
    (log.serve .subscribe).1 = .number id ∧
    (LogCall.portions id calls).flatten = LogCall.emitted calls ∧
    (log.serve .subscribe).2.drains id (calls ++ [.drain id]) =
      (LogCall.portions id calls).map fun portion =>
        .feed ⟨portion.rtake 256, portion.length - min portion.length 256⟩ := by
  intro log id
  have hid : log.feeds.length = id := length_feeds c before
  have hnew : (log.serve .subscribe).2.feeds[id]? = some (Feed.ofEvents []) := by
    show (log.feeds ++ [Feed.empty])[id]? = _
    simp [← hid]
  refine ⟨congrArg LogAnswer.number hid, LogCall.flatten_portions id calls, ?_⟩
  obtain ⟨first, rest, hparts⟩ := List.exists_cons_of_ne_nil (LogCall.portions_ne_nil id calls)
  rw [drains_eq hnew, hparts]
  rfl

end EventLog

end BlockPilot
