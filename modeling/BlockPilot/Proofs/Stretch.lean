import BlockPilot.Proofs.FloorInv
import BlockPilot.Proofs.SessionTurns

/-!
# Stretches between pauses

A run that goes on to its next pause runs a stretch of blocks. A block that can be run pauses behind
itself, and so does a loop behind its last turn; a block that cannot be run does not. `Stretches` sums
up the stretches of tasks that follow one another, so that the tasks of a run can be put together
(`Call.ahead`) and a turn of a loop counts like any other turn.

No stretch of a run is longer than the reach of its program (`Floor.stretch_le_reach`). A loop whose
body cannot pause runs all its turns in one stretch, however many they are
(`Floor.stretch_outruns_count`); if every loop breathes, no stretch is longer than the program.
-/

namespace BlockPilot

/-! ## Summing up stretches -/

/-- How blocks that are run one after the other are spread over the pauses among them: one stretch if
there is no pause, else the one in front of the first pause, the longest one between two pauses, and
the one behind the last. -/
inductive Stretches where
  | whole (blocks : Nat)
  | split (first longest last : Nat)
  deriving DecidableEq

namespace Stretches

/-- How many blocks are run in front of the first pause. -/
def first : Stretches → Nat
  | .whole n => n
  | .split first _ _ => first

/-- The longest stretch. -/
def most : Stretches → Nat
  | .whole n => n
  | .split first longest last => max first (max longest last)

/-- A pause and nothing else. -/
def pause : Stretches := .split 0 0 0

/-- The last stretch of the one and the first of the other are one stretch. -/
def append : Stretches → Stretches → Stretches
  | .whole a, .whole b => .whole (a + b)
  | .whole a, .split first longest last => .split (a + first) longest last
  | .split first longest last, .whole b => .split first longest (last + b)
  | .split first longest last, .split first' longest' last' =>
    .split first (max longest (max longest' (last + first'))) last'

instance : Append Stretches := ⟨append⟩

/-- The same blocks and pauses again and again. -/
def times : Nat → Stretches → Stretches
  | 0, _ => .whole 0
  | n + 1, a => a ++ times n a

/-- The stretches of a list, one entry after the other. -/
def along {α : Type} (stretches : α → Stretches) : List α → Stretches
  | [] => .whole 0
  | x :: xs => stretches x ++ along stretches xs

@[simp] theorem whole_append_whole (a b : Nat) : whole a ++ whole b = whole (a + b) := rfl

@[simp] theorem whole_append_split (a f m l : Nat) : whole a ++ split f m l = split (a + f) m l := rfl

@[simp] theorem split_append_whole (f m l b : Nat) : split f m l ++ whole b = split f m (l + b) := rfl

@[simp] theorem split_append_split (f m l f' m' l' : Nat) :
    split f m l ++ split f' m' l' = split f (max m (max m' (l + f'))) l' := rfl

theorem append_assoc (a b c : Stretches) : a ++ b ++ c = a ++ (b ++ c) := by
  cases a <;> cases b <;> cases c <;> simp [Nat.add_assoc]
  omega

@[simp] theorem nothing_append (a : Stretches) : whole 0 ++ a = a := by
  cases a <;> simp

@[simp] theorem append_nothing (a : Stretches) : a ++ whole 0 = a := by
  cases a <;> simp

@[simp] theorem times_nothing (n : Nat) : times n (whole 0) = whole 0 := by
  induction n with
  | zero => rfl
  | succ n ih => simp [times, ih]

theorem along_append {α : Type} (stretches : α → Stretches) (xs ys : List α) :
    along stretches (xs ++ ys) = along stretches xs ++ along stretches ys := by
  induction xs with
  | nil => simp [along]
  | cons x xs ih => simp [along, ih, append_assoc]

@[simp] theorem first_pause_append (a : Stretches) : (pause ++ a).first = 0 := by
  cases a <;> rfl

/-- A pause in front of the first stretch makes none longer. -/
@[simp] theorem most_pause_append (a : Stretches) : (pause ++ a).most = a.most := by
  cases a <;> simp [pause, most]
  omega

theorem first_le_most (a : Stretches) : a.first ≤ a.most := by
  cases a with
  | whole n => exact Nat.le_refl n
  | split f m l => exact Nat.le_max_left f _

/-- Without what is in front no stretch is longer. -/
theorem most_le_append (a b : Stretches) : b.most ≤ (a ++ b).most := by
  cases a <;> cases b <;> simp [most] <;> omega

/-! ## Doing what is in front -/

/-- Some blocks of `a` are run at once and `b` is left: whatever comes behind, no stretch becomes
longer, and the one that goes on does not either. -/
def Leads (a : Stretches) (blocks : Nat) (b : Stretches) : Prop :=
  ∀ rest, (b ++ rest).most ≤ (a ++ rest).most ∧ blocks + (b ++ rest).first ≤ (a ++ rest).first

namespace Leads

theorem of_eq {a b : Stretches} {n : Nat} (h : a = whole n ++ b) : Leads a n b := by
  intro rest
  rw [h, append_assoc]
  refine ⟨most_le_append _ _, Nat.le_of_eq ?_⟩
  cases b ++ rest <;> rfl

theorem of_le {a b : Stretches} {m n : Nat} (h : Leads a n b) (hm : m ≤ n) : Leads a m b :=
  fun rest => ⟨(h rest).1, Nat.le_trans (Nat.add_le_add_right hm _) (h rest).2⟩

/-- A pause that nobody counted on only cuts the stretch that goes on. -/
theorem paused {a b : Stretches} {n : Nat} (h : Leads a n b) : Leads a n (pause ++ b) := by
  intro rest
  rw [append_assoc, most_pause_append, first_pause_append]
  exact ⟨(h rest).1, Nat.le_trans (Nat.add_le_add_left (Nat.zero_le _) _) (h rest).2⟩

end Leads

/-! ## Bounds -/

/-- Stretches that stay within a bound also when their last one goes on with their first one. -/
def Fits (bound : Nat) : Stretches → Prop
  | .whole n => n ≤ bound
  | .split first longest last => first + last ≤ bound ∧ longest ≤ bound

theorem Fits.most_le {bound : Nat} {a : Stretches} (h : a.Fits bound) : a.most ≤ bound := by
  cases a with
  | whole n => exact h
  | split f m l =>
    have : f + l ≤ bound ∧ m ≤ bound := h
    simp only [most]
    omega

theorem Fits.append {m n : Nat} {a b : Stretches} (ha : a.Fits m) (hb : b.Fits n) :
    (a ++ b).Fits (m + n) := by
  cases a <;> cases b <;> simp only [Fits, whole_append_whole, whole_append_split, split_append_whole,
    split_append_split] at ha hb ⊢ <;> omega

theorem Fits.pause_append {n : Nat} {a : Stretches} (h : a.Fits n) : (a ++ pause).Fits n := by
  simpa using Fits.append (n := 0) h (show pause.Fits 0 from ⟨Nat.le_refl 0, Nat.le_refl 0⟩)

/-- Turns without a pause are one stretch. -/
theorem Fits.times {bound : Nat} {a : Stretches} (h : a.Fits bound) (n : Nat) :
    (times n a).Fits (n * bound) := by
  induction n with
  | zero => simp [Stretches.times, Fits]
  | succ n ih =>
    rw [Nat.succ_mul, Nat.add_comm]
    exact h.append ih

/-- Turns with a pause in each of them go no further than one turn. -/
theorem Fits.times_split {bound f m l : Nat} (h : (split f m l).Fits bound) (n : Nat) :
    (Stretches.times n (split f m l)).Fits bound := by
  have : Stretches.times n (split f m l) = whole 0 ∨
      ∃ m' ≤ bound, Stretches.times n (split f m l) = split f m' l := by
    have hb : f + l ≤ bound ∧ m ≤ bound := h
    induction n with
    | zero => exact Or.inl rfl
    | succ n ih =>
      right
      rcases ih with e | ⟨m', hm, e⟩
      · exact ⟨m, hb.2, by simp [Stretches.times, e]⟩
      · exact ⟨max m (max m' (l + f)), by omega, by simp [Stretches.times, e]⟩
  rcases this with e | ⟨m', hm, e⟩
  · rw [e]
    exact Nat.zero_le bound
  · rw [e]
    exact ⟨h.1, hm⟩

end Stretches

/-! ## The stretches of a program -/

/-- A block that can be run pauses behind itself. -/
def Block.stretches (b : Block) : Stretches :=
  .whole 1 ++ if b.meaning.isOk then .pause else .whole 0

def Chain.stretches : Chain → Stretches
  | .nil => .whole 0
  | .block b next => b.stretches ++ next.stretches
  | .loop kind times body next =>
    (match kind.count times with
      | .ok n => .whole 1 ++ (.times n body.stretches ++ .pause)
      | .error _ => .whole 1) ++ next.stretches

def Program.stretches (p : Program) : Stretches := .along Chain.stretches p.sequences

/-- Whether a chain pauses at all: one of its own blocks can be run. -/
def Chain.pauses : Chain → Bool
  | .nil => false
  | .block b next => b.meaning.isOk || next.pauses
  | .loop kind times _ next => (kind.count times).isOk || next.pauses

/-- A bound on the stretches of a chain: every block counts once, but the blocks of a body that does
not pause count in each turn. -/
def Chain.reach : Chain → Nat
  | .nil => 0
  | .block _ next => 1 + next.reach
  | .loop kind times body next =>
    (match kind.count times with
      | .ok n => 1 + if body.pauses then body.reach else n * body.reach
      | .error _ => 1) + next.reach

def Program.reach (p : Program) : Nat := total Chain.reach p.sequences

/-- Whether every loop that turns more than once has no body or one that pauses. -/
def Chain.breathes : Chain → Bool
  | .nil => true
  | .block _ next => next.breathes
  | .loop kind times body next =>
    (match kind.count times with
      | .ok n => (decide (n ≤ 1) || body.isEmpty || body.pauses) && body.breathes
      | .error _ => true) && next.breathes

def Program.breathes (p : Program) : Bool := p.sequences.all Chain.breathes

namespace Chain

theorem stretches_withNext (c : Chain) :
    (c.withNext .nil).stretches ++ c.next.stretches = c.stretches := by
  cases c <;> simp [withNext, next, stretches]

theorem stretches_of_isEmpty {c : Chain} (h : c.isEmpty = true) : c.stretches = .whole 0 := by
  cases c <;> simp_all [isEmpty, stretches]

/-- The stretches of a chain that pauses are split. -/
theorem split_of_pauses {c : Chain} (h : c.pauses = true) : ∃ f m l, c.stretches = .split f m l := by
  have behind (a : Stretches) {f m l : Nat} : ∃ f' m' l', a ++ .split f m l = .split f' m' l' := by
    cases a <;> exact ⟨_, _, _, rfl⟩
  have front (b : Stretches) {f m l : Nat} : ∃ f' m' l', .split f m l ++ b = Stretches.split f' m' l' := by
    cases b <;> exact ⟨_, _, _, rfl⟩
  induction c with
  | nil => cases h
  | block b next ih =>
    rcases Bool.or_eq_true_iff.1 h with hb | hn
    · simp only [stretches, Block.stretches, hb, if_true, Stretches.pause, Stretches.whole_append_split]
      exact front _
    · obtain ⟨f, m, l, e⟩ := ih hn
      rw [stretches, e]
      exact behind _
  | loop kind times body next _ ih =>
    rcases Bool.or_eq_true_iff.1 h with hc | hn
    · cases hk : kind.count times with
      | error fault => simp [hk, Except.isOk, Except.toBool] at hc
      | ok n =>
        obtain ⟨f, m, l, e⟩ := behind (.times n body.stretches) (f := 0) (m := 0) (l := 0)
        simp only [stretches, hk, Stretches.pause, e, Stretches.whole_append_split]
        exact front _
    · obtain ⟨f, m, l, e⟩ := ih hn
      rw [stretches, e]
      exact behind _

theorem fits_reach (c : Chain) : c.stretches.Fits c.reach := by
  induction c with
  | nil => exact Nat.le_refl 0
  | block b next ih =>
    refine Stretches.Fits.append ?_ ih
    have hone : (Stretches.whole 1).Fits 1 := Nat.le_refl 1
    unfold Block.stretches
    split
    · exact hone.pause_append
    · simpa using hone
  | loop kind times body next ihb ihn =>
    refine Stretches.Fits.append ?_ ihn
    have hone : (Stretches.whole 1).Fits 1 := Nat.le_refl 1
    cases kind.count times with
    | error fault => exact hone
    | ok n =>
      refine hone.append (Stretches.Fits.pause_append ?_)
      split
      · rename_i hp
        obtain ⟨f, m, l, e⟩ := split_of_pauses hp
        rw [e] at ihb ⊢
        exact ihb.times_split n
      · exact ihb.times n

theorem reach_le_count {c : Chain} (h : c.breathes = true) : c.reach ≤ c.count := by
  induction c with
  | nil => exact Nat.le_refl 0
  | block b next ih => exact Nat.add_le_add_left (ih h) 1
  | loop kind times body next ihb ihn =>
    obtain ⟨hloop, hn⟩ := Bool.and_eq_true_iff.1 h
    refine Nat.add_le_add ?_ (ihn hn)
    cases hk : kind.count times with
    | error fault => exact Nat.le_add_right 1 _
    | ok n =>
      simp only [hk, Bool.and_eq_true, Bool.or_eq_true, decide_eq_true_eq] at hloop
      obtain ⟨hturns, hb⟩ := hloop
      refine Nat.add_le_add_left ?_ 1
      split
      · exact ihb hb
      · rename_i hp
        rcases hturns with (hle | he) | hp'
        · calc n * body.reach ≤ 1 * body.reach := Nat.mul_le_mul_right _ hle
            _ = body.reach := Nat.one_mul _
            _ ≤ body.count := ihb hb
        · cases body with
          | nil => simp [reach]
          | block | loop => cases he
        · exact absurd hp' hp

end Chain

namespace Program

theorem fits_reach (p : Program) : p.stretches.Fits p.reach := by
  unfold stretches reach
  induction p.sequences with
  | nil => exact Nat.le_refl 0
  | cons c cs ih => exact c.fits_reach.append ih

theorem reach_le_count {p : Program} (h : p.breathes = true) : p.reach ≤ p.count :=
  total_le fun c hc => Chain.reach_le_count (List.all_eq_true.1 h c hc)

end Program

/-! ## The stretches of tasks -/

/-- What tasks have in front of them. A pause of no length is none. -/
def Task.stretches : Task → Stretches
  | .pause n => if Session.takesTime n then .pause else .whole 0
  | .head c => (c.withNext .nil).stretches
  | .chain c => c.stretches
  | .loop body left => .times left body.stretches
  | .sequences rest => .along Chain.stretches rest
  | .begin p => p.stretches
  | .emit _ | .probe => .whole 1
  | .send _ | .conclude | .finish _ | .raise _ | .verdict => .whole 0

/-- Whether a block shows itself by a mark: one that is run by its message, one that cannot be run by
an error. -/
def Mark.isBlock : Mark → Bool
  | .event e => e.severity == .info
  | .fault _ => true
  | .dispatch .. => false

/-- How many blocks some effects tell of. -/
def blocksIn (effects : List Effect) : Nat := (effects.flatMap Effect.marks).countP Mark.isBlock

namespace Call

/-- How many blocks a call has run. -/
def blocks (call : Call) : Nat := call.marks.countP Mark.isBlock

/-- What a call has in front of it. -/
def ahead (call : Call) : Stretches := .along Task.stretches call.tasks

/-- What a task does to the stretches: it drops its own when the call has to stop, when it wakes, or
when a run cannot begin; else they lead to those of the tasks that it puts in front. -/
inductive Onward (c : Controller) (call : Call) (task : Task) (step : List Effect × Call) : Prop
  | drops (why : call.stops c = true ∨ task.isPause Session.takesTime = true ∨ ∃ p, task = .begin p)
    (tasks : step.2.tasks = call.tasks) (blocks : blocksIn step.1 = 0)
  | leads (more : List Task) (tasks : step.2.tasks = more ++ call.tasks)
    (leads : task.stretches.Leads (blocksIn step.1) (.along Task.stretches more))

variable {c : Controller} {call : Call} {task : Task} {rest : List Task}

namespace Onward

theorem dropped (h : call.stops c = true) : Onward c call task ([], call) :=
  .drops (Or.inl h) rfl rfl

/-- A task that is replaced by others with the same stretches. -/
theorem pushed {step : List Effect × Call} (more : List Task) (ht : step.2.tasks = more ++ call.tasks)
    (h : task.stretches = .whole (blocksIn step.1) ++ .along Task.stretches more) :
    Onward c call task step :=
  .leads more ht (.of_eq h)

/-- A task that is done with. -/
theorem done {step : List Effect × Call} (ht : step.2.tasks = call.tasks)
    (h : task.stretches = .whole (blocksIn step.1)) : Onward c call task step :=
  .leads [] ht (.of_eq (by simpa [Stretches.along] using h))

theorem send (command : Command) : Onward c call (.send command) (doSend c call command) := by
  have hnone : (Task.send command).stretches.Leads 0 (.whole 0) := .of_eq rfl
  unfold doSend
  split
  · refine .leads [.pause c.channel.settle.nanoseconds] rfl ?_
    simp only [Stretches.along, Task.stretches]
    split
    · exact hnone.paused
    · exact hnone
  · exact .leads [] rfl hnone

/-- Whatever a block does, the pause behind it is one. -/
theorem along_deedTasks (deed : Deed) {n : Nat} (hn : Session.takesTime n = true) :
    Stretches.along Task.stretches (deedTasks deed ++ [.pause n]) = .pause := by
  cases deed with
  | nothing | send => simp [deedTasks, Stretches.along, Task.stretches, hn]
  | wait m =>
    simp only [deedTasks, List.cons_append, List.nil_append, Stretches.along, Task.stretches, hn, if_true]
    split <;> rfl

theorem head (hp : 0 < c.pacing.nanoseconds) (call : Call) (first : Chain) :
    Onward c call (.head first) (doHead c call first) := by
  have hpause : Session.takesTime c.pacing.nanoseconds = true :=
    bne_iff_ne.2 (Nat.ne_of_gt hp)
  cases first with
  | nil => exact done rfl rfl
  | block b next =>
    simp only [doHead]
    split
    · rename_i hs
      exact dropped (Bool.and_eq_true_iff.1 hs).1
    · split
      · rename_i fault hm
        refine done rfl ?_
        simp [Task.stretches, Chain.withNext, Chain.stretches, Block.stretches, hm, Except.isOk,
          Except.toBool, blocksIn, fail, Effect.marks, Mark.isBlock]
      · rename_i message deed hm
        refine pushed (deedTasks deed ++ [.pause c.pacing.nanoseconds]) rfl ?_
        rw [along_deedTasks deed hpause]
        simp [Task.stretches, Chain.withNext, Chain.stretches, Block.stretches, hm, Except.isOk,
          Except.toBool, blocksIn, Effect.marks, Mark.isBlock]
  | loop kind times body next =>
    simp only [doHead]
    split
    · rename_i hs
      exact dropped hs
    · split
      · rename_i fault hc
        refine done rfl ?_
        simp [Task.stretches, Chain.withNext, Chain.stretches, hc, blocksIn, fail, Effect.marks,
          Mark.isBlock]
      · rename_i n hc
        let more : List Task :=
          (if body.isEmpty then [] else [.loop body n]) ++ [.pause c.pacing.nanoseconds]
        have hmore : Stretches.along Task.stretches more = .times n body.stretches ++ .pause := by
          simp only [more]
          split
          · rename_i he
            simp [Stretches.along, Task.stretches, hpause, Chain.stretches_of_isEmpty he]
          · simp [Stretches.along, Task.stretches, hpause]
        refine pushed more rfl ?_
        rw [hmore]
        simp [Task.stretches, Chain.withNext, Chain.stretches, hc, blocksIn, Effect.marks, Mark.isBlock]

theorem perform (hp : 0 < c.pacing.nanoseconds) (call : Call) (task : Task) :
    Onward c call task (Call.perform c call task) := by
  cases task with
  | pause n =>
    cases hn : Session.takesTime n with
    | true => exact .drops (Or.inr (Or.inl hn)) rfl rfl
    | false => exact done rfl (by simp [Task.stretches, hn, Call.perform, blocksIn])
  | emit event => exact .leads [] rfl (.of_le (.of_eq (n := 1) rfl) List.countP_le_length)
  | send command => exact send command
  | head first => exact head hp call first
  | chain rest =>
    have hr := rest.stretches_withNext
    cases rest with
    | nil => exact done rfl rfl
    | block | loop =>
      simp only [Call.perform]
      split
      · rename_i hs
        exact dropped hs
      · exact pushed _ rfl (by simpa [Stretches.along, Task.stretches, blocksIn] using hr.symm)
  | loop body left =>
    cases left with
    | zero => exact done rfl rfl
    | succ left =>
      simp only [Call.perform]
      split
      · rename_i hs
        exact dropped hs
      · exact pushed _ rfl (by simp [Stretches.along, Task.stretches, blocksIn, Stretches.times])
  | sequences rest =>
    cases rest with
    | nil => exact done rfl rfl
    | cons first rest =>
      simp only [Call.perform]
      split
      · rename_i hs
        exact dropped hs
      · exact pushed _ rfl (by simp [Stretches.along, Task.stretches, blocksIn])
  | begin p =>
    simp only [Call.perform, doBegin]
    split
    · exact .drops (Or.inr (Or.inr ⟨p, rfl⟩)) rfl rfl
    · refine pushed [.sequences p.sequences, .conclude] rfl ?_
      simp [Task.stretches, Program.stretches, Stretches.along, blocksIn, Effect.marks, Mark.isBlock]
  | conclude =>
    simp only [Call.perform]
    split
    · exact pushed [.finish .stopped] rfl rfl
    · exact pushed [.send ⟨.stop, none⟩, .finish .completed] rfl rfl
  | finish outcome =>
    refine done rfl ?_
    simp only [Call.perform, doFinish, Task.stretches]
    cases call.ticket <;> rfl
  | raise signal => exact done rfl rfl
  | probe =>
    simp only [Call.perform, doProbe]
    split
    · exact .leads [] rfl (.of_le (n := 1) (.of_eq rfl) List.countP_le_length)
    · have htest : (Stretches.whole 1).Leads 1 (.pause ++ .whole 0) := .paused (.of_eq rfl)
      exact .leads [.send ⟨.forward, none⟩, .pause testPause, .send ⟨.backward, none⟩, .pause testPause,
        .send ⟨.stop, none⟩, .verdict] rfl htest
  | verdict =>
    refine done rfl ?_
    simp only [Call.perform, doVerdict, Task.stretches]
    split <;> rfl

end Onward

/-! ## Going on to the next pause -/

theorem blocks_doNext (ht : call.tasks = task :: rest) :
    (call.doNext c).2.blocks =
      call.blocks + blocksIn (Call.perform c { call with tasks := rest } task).1 := by
  simp [blocks, marks, trace_doNext ht, blocksIn]

theorem pacing_doNext (c : Controller) (call : Call) : (call.doNext c).1.pacing = c.pacing :=
  Controller.fixed_pacing.doNext c call

/-- No stretch ever becomes longer. -/
theorem most_doNext_le (hp : 0 < c.pacing.nanoseconds) (call : Call) :
    (call.doNext c).2.ahead.most ≤ call.ahead.most := by
  cases ht : call.tasks with
  | nil => exact Nat.le_of_eq (by rw [doNext_nil ht])
  | cons task rest =>
    have hahead : call.ahead = task.stretches ++ .along Task.stretches rest := by
      simp [ahead, ht, Stretches.along]
    rw [hahead, doNext_cons ht]
    rcases Onward.perform hp { call with tasks := rest } task with ⟨-, tasks, -⟩ | ⟨more, tasks, leads⟩
    · simp only [ahead, traced, tasks]
      exact Stretches.most_le_append _ _
    · simp only [ahead, traced, tasks, Stretches.along_append]
      exact (leads _).1

end Call

namespace RunStage

variable {p : Program} {c : Controller} {call : Call} {task : Task} {rest : List Task}

/-- While a run goes on and does not pause, the blocks that it runs come off its first stretch. -/
theorem blocks_doNext_le (h : RunStage p false call) (hp : 0 < c.pacing.nanoseconds) (hs : call.stops c = false)
    (ht : call.tasks = task :: rest) (hw : task.isPause Session.takesTime = false) :
    (call.doNext c).2.blocks + (call.doNext c).2.ahead.first ≤ call.blocks + call.ahead.first := by
  have hahead : call.ahead = task.stretches ++ .along Task.stretches rest := by
    simp [Call.ahead, ht, Stretches.along]
  have hnext : (call.doNext c).2.ahead = .along Task.stretches
      (Call.perform c { call with tasks := rest } task).2.tasks := by
    rw [Call.doNext_cons ht]
    rfl
  rw [Call.blocks_doNext ht, hahead, hnext, Nat.add_assoc]
  refine Nat.add_le_add_left ?_ _
  rcases Call.Onward.perform hp { call with tasks := rest } task with
    ⟨why, tasks, blocks⟩ | ⟨more, tasks, leads⟩
  · rcases why with hs' | hw' | ⟨q, rfl⟩
    · exact absurd (hs.symm.trans hs') (by simp)
    · exact absurd (hw.symm.trans hw') (by simp)
    · -- a run that cannot begin has nothing else in front of it
      have hf : rest = [] ∧ q = p ∧ call.ticket = none := by
        simpa [Task.looks, Task.acts] using h.front ht
      rw [tasks, blocks, hf.1]
      exact Nat.zero_le _
  · rw [tasks, Stretches.along_append]
    exact (leads _).2

/-- A run that goes on to its next pause runs no more blocks than its first stretch has, and none if
it has been told to stop. -/
theorem blocks_advance_le (h : RunStage p (call.stops c) call) (hp : 0 < c.pacing.nanoseconds) :
    (call.advance Session.takesTime c).2.blocks ≤
      call.blocks + if call.stops c then 0 else call.ahead.first := by
  induction hn : call.weight using Nat.strongRecOn generalizing c call with
  | ind n ih =>
    cases ht : call.tasks with
    | nil =>
      rw [Call.advance_nil ht]
      exact Nat.le_add_right _ _
    | cons task rest =>
      cases hw : task.isPause Session.takesTime with
      | true =>
        rw [Call.advance_pause ht hw]
        exact Nat.le_add_right _ _
      | false =>
        rw [Call.advance_doNext ht hw]
        -- what this task does, and that it leaves to the others what they may do
        have hnow : (call.doNext c).2.blocks +
            (if call.stops c then 0 else (call.doNext c).2.ahead.first) ≤
              call.blocks + if call.stops c then 0 else call.ahead.first := by
          cases hs : call.stops c with
          | true =>
            rw [hs] at h
            simp [Call.blocks, h.marks_doNext hs]
          | false =>
            rw [hs] at h
            exact h.blocks_doNext_le hp hs ht hw
        refine Nat.le_trans ?_ hnow
        obtain ⟨hstage, hs | ho⟩ := h.doNext
        · rw [← hs]
          rw [← hs] at hstage
          exact ih _ (hn ▸ Call.weight_doNext_lt ht) hstage (by rwa [Call.pacing_doNext]) rfl
        · rw [Call.advance_nil ho]
          exact Nat.le_add_right _ _

end RunStage

/-! ## Runs among other calls -/

namespace Floor

variable {f : Floor}

theorem pacing_step (f : Floor) (turn : Turn) : (f.step turn).controller.pacing = f.controller.pacing :=
  Controller.fixed_pacing.step f turn

theorem pacing_run (f : Floor) (turns : List Turn) :
    (f.run turns).controller.pacing = f.controller.pacing :=
  Controller.fixed_pacing.run f turns

/-- The stretches of a run stay within the reach of its program. -/
def Reaches (f : Floor) : Prop :=
  ∀ (i : Nat) (p : Program) (call : Call), f.callers[i]? = some ⟨.run p, call⟩ →
    call.ahead.most ≤ p.reach

theorem Reaches.step (h : f.Reaches) (hp : 0 < f.controller.pacing.nanoseconds) (turn : Turn) :
    (f.step turn).Reaches := by
  intro i p call hi
  rcases step_caller hi with hnew | ⟨⟨request, old⟩, hold, hrequest, hcall⟩
  · obtain rfl : call = .run p := by simpa [Request.call] using hnew
    have hahead : (Call.run p).ahead = p.stretches := by
      simp [Call.ahead, Call.run, Call.ofTasks, Stretches.along, Task.stretches]
    rw [hahead]
    exact p.fits_reach.most_le
  · obtain rfl : request = .run p := hrequest
    have hle := h i p old hold
    rcases hcall with hsame | ⟨r, move, -, hr, -⟩
    · obtain rfl : call = old := hsame
      exact hle
    · obtain rfl : call = r.2 := hr
      cases move with
      | next => exact Nat.le_trans (Call.most_doNext_le hp old) hle
      | drop => exact Nat.zero_le _

theorem Reaches.run (h : f.Reaches) (hp : 0 < f.controller.pacing.nanoseconds) (turns : List Turn) :
    (f.run turns).Reaches := by
  induction turns generalizing f with
  | nil => exact h
  | cons turn turns ih => exact ih (h.step hp turn) (by rwa [pacing_step])

/-- **The reach of a program.** Where blocks are paced, take any calls of a controller and let them
take turns in any order, with fewer than `2 ^ 64` runs (`Floor.tickets_fit`). From wherever a run
stands it goes on to the next pause that takes time or to its end, and on the way it runs no more
blocks than its program reaches; if every loop of the program breathes, no more than the program has. -/
theorem stretch_le_reach (channel : Channel) (log : EventLog) (pacing : Duration) (paced : 0 < pacing.nanoseconds)
    (turns : List Turn) (i : Nat) (p : Program) (call : Call)
    (hi : ((Floor.new (.new channel log pacing)).run turns).callers[i]? = some ⟨.run p, call⟩) :
    let f := (Floor.new (.new channel log pacing)).run turns
    let next := (call.advance Session.takesTime f.controller).2
    (next.tasks = [] ∨ ∃ n rest, next.tasks = .pause n :: rest ∧ 0 < n) ∧
      next.blocks ≤ call.blocks + p.reach ∧
      (p.breathes = true → next.blocks ≤ call.blocks + p.count) := by
  intro f next
  have hpaced : 0 < f.controller.pacing.nanoseconds := by rwa [pacing_run]
  have hreach : f.Reaches := Reaches.run (by intro i p call hi; simp [Floor.new] at hi) paced turns
  have hstage : RunStage p (call.stops f.controller) call :=
    (sound_run (sound_new channel log pacing) turns).stage i _ hi
  have hbound : next.blocks ≤ call.blocks + p.reach := by
    refine Nat.le_trans (hstage.blocks_advance_le hpaced) (Nat.add_le_add_left ?_ _)
    split
    · exact Nat.zero_le _
    · exact Nat.le_trans call.ahead.first_le_most (hreach i p call hi)
  refine ⟨?_, hbound, fun hb => ?_⟩
  · rcases Call.advance_front Session.takesTime f.controller call with ho | ⟨n, rest, ht, hn⟩
    · exact Or.inl ho
    · exact Or.inr ⟨n, rest, ht, Nat.pos_of_ne_zero (bne_iff_ne.1 hn)⟩
  · exact Nat.le_trans hbound (Nat.add_le_add_left (Program.reach_le_count hb) _)

/-- A loop turns three times over a block that cannot be run and a stop. Its run is behind the first
stop command when it pauses, and has run as many blocks as the program has. -/
theorem stretch_le_reach_in_loop :
    let p := Program.ofChains [.repeatFixed 3 [.block (.unsupported "x" []) .nil, .stop]]
    let f := (Floor.new (.new (.recorder (.new 50)) (.new 8) 50)).run [.ask (.run p)]
    let next := ((Call.run p).advance Session.takesTime f.controller).2
    p.breathes = true ∧ p.count = 3 ∧ next.blocks = 3 ∧ next.blocks ≤ (Call.run p).blocks + p.count := by
  intro p f next
  have hbreathes : p.breathes = true := by decide +kernel
  have hbound := stretch_le_reach (.recorder (.new 50)) (.new 8) 50 (by decide) [.ask (.run p)] 0 p
    (Call.run p) rfl
  exact ⟨hbreathes, by decide +kernel, by decide +kernel, hbound.2.2 hbreathes⟩

/-- A loop turns three times over a block that cannot be run, and is behind its pause then. It has run
four blocks in one stretch, twice as many as the program has. -/
theorem stretch_outruns_count :
    let p := Program.ofChains [.repeatFixed 3 [.block (.unsupported "x" []) .nil]]
    let c := Controller.new (.recorder (.new 50)) (.new 8) 50
    let next := ((Call.run p).advance Session.takesTime c).2
    p.count = 2 ∧ next.blocks = 4 ∧ next.isAsleep = true := by
  decide +kernel

end Floor

end BlockPilot
