import BlockPilot.Proofs.Interrupted

/-!
# Where a run stands in its program

A run that goes on stands at a block, inside the loops around it (`Place`). The tasks that it has left are
those of that block, then the blocks behind it, and then for each loop, the innermost first, its turns that
are left, its pacing and the blocks behind it (`Place.outer`). `Stands.doNext` is the step: a run leaves a
block, goes into a loop, turns it or leaves it, and stands somewhere again.
-/

namespace BlockPilot

/-! ## Places -/

/-- A loop that is turning: its body, the turns that are left, and the blocks behind it. -/
structure Frame where
  body : Chain
  left : Nat
  next : Chain

/-- What a run does for a loop when it has left its body. -/
def Frame.tasks (pacing : Duration) (frame : Frame) : List Task :=
  [.loop frame.body frame.left, .pause pacing.nanoseconds, .chain frame.next]

/-- The blocks `here` are in the chain `root`, inside the loops of `path`, the innermost first. -/
inductive Chain.Inside (root : Chain) : List Frame → Chain → Prop
  | root : Inside root [] root
  | next {path : List Frame} {here : Chain} (h : Inside root path here) : Inside root path here.next
  | body {path : List Frame} {kind : LoopKind} {times : Option FieldValue} {body next : Chain} {n left : Nat}
      (h : Inside root path (.loop kind times body next)) (count : kind.count times = .ok n)
      (turns : left < n) : Inside root (⟨body, left, next⟩ :: path) body

/-- Who is inside a loop came from there. -/
theorem Chain.Inside.outward {root here : Chain} {frame : Frame} {path : List Frame}
    (h : Chain.Inside root (frame :: path) here) :
    ∃ kind times n, Chain.Inside root path (.loop kind times frame.body frame.next) ∧
      kind.count times = .ok n ∧ frame.left < n := by
  generalize hpath : frame :: path = frames at h
  induction h with
  | root => cases hpath
  | next _ ih => exact ih hpath
  | @body path' kind times body next n left h count turns =>
    cases hpath
    exact ⟨kind, times, n, h, count, turns⟩

/-- The blocks at which a run of a program stands, and the loops around them. -/
structure Place (p : Program) where
  before : List Chain
  root : Chain
  rest : List Chain
  path : List Frame
  here : Chain
  split : p.sequences = before ++ root :: rest
  inside : root.Inside path here

namespace Place

variable {p : Program}

/-- How many loops there are around a place. -/
def depth (place : Place p) : Nat := place.path.length

/-- The place behind the first block. -/
def next (place : Place p) : Place p :=
  { place with here := place.here.next, inside := place.inside.next }

/-- What a run does when it has left the blocks at a place. -/
def outer (place : Place p) (pacing : Duration) : List Task :=
  place.path.flatMap (Frame.tasks pacing) ++ [.sequences place.rest, .conclude]

/-- What a run does when it has left the first block at a place. -/
def behind (place : Place p) (pacing : Duration) : List Task :=
  .chain place.here.next :: place.outer pacing

/-- The tasks of a run that sleeps inside the first block at a place, where the block owes some pauses. -/
def asleep (place : Place p) (pacing : Duration) (n owed : Nat) : List Task :=
  .pause n :: (List.replicate owed (.pause pacing.nanoseconds) ++ place.behind pacing)

/-- The pauses behind a block are one for each loop around it. -/
theorem pauses_behind (place : Place p) (pacing : Duration) :
    (place.behind pacing).filter (Task.isPause fun _ => true) =
      List.replicate place.depth (.pause pacing.nanoseconds) := by
  have hpath (path : List Frame) : (path.flatMap (Frame.tasks pacing)).filter (Task.isPause fun _ => true) =
      List.replicate path.length (.pause pacing.nanoseconds) := by
    induction path with
    | nil => rfl
    | cons frame path ih =>
      rw [List.flatMap_cons, List.filter_append, ih]
      rfl
  rw [behind, List.filter_cons_of_neg (by simp [Task.isPause]), outer, List.filter_append, hpath]
  exact List.append_nil _

/-- The pauses of a run that sleeps are that one, those that its block owes, and one for each loop. -/
theorem pauses_asleep (place : Place p) (pacing : Duration) (n owed : Nat) :
    (place.asleep pacing n owed).filter (Task.isPause fun _ => true) =
      .pause n :: List.replicate (owed + place.depth) (.pause pacing.nanoseconds) := by
  have howed : (List.replicate owed (Task.pause pacing.nanoseconds)).filter (Task.isPause fun _ => true) =
      List.replicate owed (.pause pacing.nanoseconds) :=
    List.filter_eq_self.2 fun t ht => by rw [List.eq_of_mem_replicate ht]; rfl
  rw [asleep, List.filter_cons_of_pos (by rfl), List.filter_append, howed, pauses_behind,
    List.replicate_append_replicate]

/-- All that is left of a run that sleeps inside a block, up to its end, looks at the ticket. -/
theorem asleep_looks (place : Place p) (pacing : Duration) (n owed : Nat) :
    ∃ w, place.asleep pacing n owed = w ++ [.conclude] ∧ ∀ t ∈ w, t.looks = true := by
  have hframe (frame : Frame) : ∀ t ∈ frame.tasks pacing, t.looks = true := by
    simp [Frame.tasks, Task.looks]
  refine ⟨.pause n :: (List.replicate owed (.pause pacing.nanoseconds) ++
    .chain place.here.next :: (place.path.flatMap (Frame.tasks pacing) ++ [.sequences place.rest])),
    by simp [asleep, behind, outer], fun t ht => ?_⟩
  simp only [List.mem_cons, List.mem_append, List.mem_flatMap, List.not_mem_nil, or_false] at ht
  rcases ht with rfl | ht | rfl | ⟨frame, -, ht⟩ | rfl
  · rfl
  · rw [List.eq_of_mem_replicate ht]
    rfl
  · rfl
  · exact hframe frame t ht
  · rfl

/-- Why a run sleeps inside the first block at a place, for how long, and how many pauses the block still
owes: a wait and a command are followed by the pacing, the pacing by nothing. -/
inductive Sleeps (place : Place p) (settle pacing : Duration) : Nat → Nat → Prop
  | wait {b : Block} {next : Chain} {message : String} {n : Nat} (here : place.here = .block b next)
      (meaning : b.meaning = .ok (message, .wait n)) : Sleeps place settle pacing n 1
  | settle {b : Block} {next : Chain} {message : String} {command : Command}
      (here : place.here = .block b next) (meaning : b.meaning = .ok (message, .send command)) :
      Sleeps place settle pacing settle.nanoseconds 1
  | pacing (here : place.here.isEmpty = false) : Sleeps place settle pacing pacing.nanoseconds 0

end Place

/-! ## Standing -/

/-- The tasks that a run of a program has left, while it has not been told to stop. -/
inductive Stands (p : Program) (settle pacing : Duration) : List Task → Prop
  | asked : Stands p settle pacing [.begin p]
  | sequences {before rest : List Chain} (split : p.sequences = before ++ rest) :
      Stands p settle pacing [.sequences rest, .conclude]
  | chain (place : Place p) : Stands p settle pacing (.chain place.here :: place.outer pacing)
  | head (place : Place p) : Stands p settle pacing (.head place.here :: place.behind pacing)
  | sends (place : Place p) {b : Block} {next : Chain} {message : String} {command : Command}
      (here : place.here = .block b next) (meaning : b.meaning = .ok (message, .send command)) :
      Stands p settle pacing (.send command :: .pause pacing.nanoseconds :: place.behind pacing)
  | sleeps (place : Place p) {n owed : Nat} (sleep : place.Sleeps settle pacing n owed) :
      Stands p settle pacing (place.asleep pacing n owed)
  | turns (place : Place p) {kind : LoopKind} {times : Option FieldValue} {body next : Chain} {n left : Nat}
      (here : place.here = .loop kind times body next) (count : kind.count times = .ok n)
      (most : left ≤ n) :
      Stands p settle pacing (.loop body left :: .pause pacing.nanoseconds :: place.behind pacing)
  | conclude : Stands p settle pacing [.conclude]
  | closes : Stands p settle pacing [.send ⟨.stop, none⟩, .finish .completed]
  | settles (n : Nat) : Stands p settle pacing [.pause n, .finish .completed]
  | finishes : Stands p settle pacing [.finish .completed]
  | ended : Stands p settle pacing []

namespace Stands

variable {p : Program} {settle pacing : Duration}

/-- Behind the pacing of a block. -/
theorem paced (place : Place p) (here : place.here.isEmpty = false) :
    Stands p settle pacing (.pause pacing.nanoseconds :: place.behind pacing) :=
  .sleeps place (.pacing here)

theorem behind (place : Place p) : Stands p settle pacing (place.behind pacing) :=
  .chain place.next

/-- Behind the last block of a chain a run goes back to the loop around it, or on to the next sequence. -/
theorem outer (place : Place p) : Stands p settle pacing (place.outer pacing) := by
  obtain ⟨before, root, rest, path, here, split, inside⟩ := place
  cases path with
  | nil =>
    have hsplit : p.sequences = (before ++ [root]) ++ rest := by simp [split]
    exact .sequences hsplit
  | cons frame path =>
    obtain ⟨kind, times, n, hloop, count, turns⟩ := inside.outward
    exact .turns ⟨before, root, rest, path, _, split, hloop⟩ rfl count (Nat.le_of_lt turns)

variable {c : Controller} {call : Call}

theorem head_doHead (place : Place p) (hs : call.stops c = false)
    (hbehind : call.tasks = place.behind c.pacing) :
    Stands p settle c.pacing (Call.doHead c call place.here).2.tasks := by
  have skipped : Stands p settle c.pacing call.tasks := hbehind ▸ .behind place
  cases hhere : place.here with
  | nil => exact skipped
  | block b next =>
    have here : place.here.isEmpty = false := by rw [hhere]; rfl
    simp only [Call.doHead, hs, Bool.false_and, Bool.false_eq_true, if_false]
    split
    · exact skipped
    · rename_i message deed meaning
      simp only [Call.push, hbehind]
      cases deed with
      | nothing => exact .paced place here
      | send command => exact .sends place hhere meaning
      | wait n => exact .sleeps place (.wait hhere meaning)
  | loop kind times body next =>
    have here : place.here.isEmpty = false := by rw [hhere]; rfl
    simp only [Call.doHead, hs, Bool.false_eq_true, if_false]
    split
    · exact skipped
    · rename_i n count
      simp only [Call.push, hbehind]
      cases hbody : body.isEmpty with
      | true => exact .paced place here
      | false => exact .turns place hhere count (Nat.le_refl n)

/-- **The step of a run in its program.** -/
theorem doNext (h : Stands p c.channel.settle c.pacing call.tasks) (hs : call.stops c = false) :
    Stands p c.channel.settle c.pacing (call.doNext c).2.tasks := by
  generalize ht : call.tasks = tasks at h
  have hstops (rest : List Task) : Call.stops { call with tasks := rest } c = false := hs
  cases h with
  | ended =>
    rw [Call.doNext_nil ht, ht]
    exact .ended
  | asked =>
    rw [Call.doNext_cons ht]
    simp only [Call.perform, Call.doBegin]
    split
    · exact .ended
    · exact .sequences (List.nil_append _).symm
  | @sequences before rest split =>
    rw [Call.doNext_cons ht]
    cases rest with
    | nil => exact .conclude
    | cons first rest =>
      simp only [Call.perform, hstops, Bool.false_eq_true, if_false]
      exact .chain ⟨before, first, rest, [], first, split, .root⟩
  | chain place =>
    rw [Call.doNext_cons ht]
    cases hhere : place.here with
    | nil => exact .outer place
    | block | loop =>
      simp only [Call.perform, hstops, Bool.false_eq_true, if_false, ← hhere]
      exact .head place
  | head place =>
    rw [Call.doNext_cons ht]
    exact head_doHead place (hstops _) rfl
  | sends place here meaning =>
    rw [Call.doNext_cons ht]
    simp only [Call.perform, Call.doSend]
    split
    · exact .sleeps place (.settle here meaning)
    · exact .paced place (by rw [here]; rfl)
  | sleeps place sleep =>
    rw [Call.doNext_cons ht]
    cases sleep with
    | wait here => exact .paced place (by rw [here]; rfl)
    | settle here => exact .paced place (by rw [here]; rfl)
    | pacing => exact .behind place
  | @turns place kind times body next n left here count most =>
    rw [Call.doNext_cons ht]
    cases left with
    | zero => exact .paced place (by rw [here]; rfl)
    | succ left =>
      simp only [Call.perform, hstops, Bool.false_eq_true, if_false]
      have hloop : place.root.Inside place.path (.loop kind times body next) := here ▸ place.inside
      have hnext : place.here.next = next := by rw [here]; rfl
      have : Stands p c.channel.settle c.pacing _ :=
        .chain ⟨place.before, place.root, place.rest, _, _, place.split, .body hloop count most⟩
      simpa [Place.outer, Place.behind, Frame.tasks, hnext, Call.push, Call.traced] using this
  | conclude =>
    rw [Call.doNext_cons ht]
    simp only [Call.perform, hstops, Bool.false_eq_true, if_false]
    exact .closes
  | closes =>
    rw [Call.doNext_cons ht]
    simp only [Call.perform, Call.doSend]
    split
    · exact .settles _
    · exact .finishes
  | settles n =>
    rw [Call.doNext_cons ht]
    exact .finishes
  | finishes =>
    rw [Call.doNext_cons ht]
    exact .ended

end Stands

/-! ## Runs among other calls -/

namespace Floor

variable {f : Floor}

/-- Every run that has not been told to stop stands somewhere. -/
def Standing (f : Floor) : Prop :=
  ∀ (i : Nat) (p : Program) (call : Call), f.callers[i]? = some ⟨.run p, call⟩ →
    call.stops f.controller = false →
    Stands p f.controller.channel.settle f.controller.pacing call.tasks

theorem Standing.step (h : f.Standing) (hsound : f.Sound) (turn : Turn) : (f.step turn).Standing := by
  intro i p call hi hs
  rw [Controller.fixed_settle.step, Controller.fixed_pacing.step]
  rcases step_caller hi with hnew | ⟨⟨request, old⟩, hold, hr, hcall⟩
  · obtain rfl : call = .run p := by simpa [Request.call] using hnew
    exact .asked
  · obtain rfl : request = .run p := hr
    cases hstops : old.stops f.controller with
    | true =>
      -- who has to stop goes on to have to, until it is over
      obtain ⟨new, hnew, -, hnow⟩ := hsound.silent hold (Or.inl hstops) turn
      cases hi.symm.trans hnew
      rcases hnow with hnow | hover
      · rw [hs] at hnow
        cases hnow
      · rw [hover]
        exact .ended
    | false =>
      have hstands := h i p old hold hstops
      rcases hcall with hcall | ⟨r, hmove, -, hcall, -⟩
      · obtain rfl : call = old := hcall
        exact hstands
      · obtain rfl : call = r.2 := hcall
        cases hmove with
        | next => exact hstands.doNext hstops
        | drop => exact .ended

theorem standing_run (h : f.Standing) (hsound : f.Sound) (turns : List Turn) : (f.run turns).Standing := by
  induction turns generalizing f with
  | nil => exact h
  | cons turn turns ih => exact ih (h.step hsound turn) (hsound.step turn)

end Floor

end BlockPilot
