import BlockPilot.Program.Basic
import BlockPilot.Program.Meaning
import BlockPilot.Run.Controller

/-!
# Scripts

The script of a program says what its run shows when nobody stops it: for every block its events
and its command in order, for a loop as many copies of the script of its body as it has turns, and
one error for what cannot be run. `play` turns a script into what can be seen, given what the
channel answers to the commands. `Plays` says that some effects are what a script gives for the
answers that these effects tell of; it holds piece by piece (`Plays.append`).
-/

namespace BlockPilot

/-- One thing that a script has its run show. -/
inductive Cue where
  | say (event : Event)
  | fail (fault : NodeFault)
  | send (command : Command)
  deriving DecidableEq

/-- What can be seen of a run: an event, the error of a block that cannot be run, or a command and
whether the channel took it. -/
inductive Mark where
  | event (event : Event)
  | fault (fault : NodeFault)
  | dispatch (command : Command) (taken : Bool)
  deriving DecidableEq

def Cue.isFail : Cue → Bool
  | .fail _ => true
  | _ => false

def Cue.isSend : Cue → Bool
  | .send _ => true
  | _ => false

def Mark.isFault : Mark → Bool
  | .fault _ => true
  | _ => false

/-! ## Scripts of programs -/

/-- The cues of a value, or one error. -/
def cuesOf {α : Type} (cues : α → List Cue) : Except NodeFault α → List Cue
  | .ok value => cues value
  | .error fault => [.fail fault]

def Block.script : Block → List Cue
  | .move d => cuesOf (fun d => [.say ⟨.info, "Move " ++ d.name⟩, .send ⟨d.toAction, none⟩])
    (Field.direction d)
  | .stop => [.say ⟨.info, "Stop"⟩, .send ⟨.stop, none⟩]
  | .wait s => cuesOf (fun n => [.say ⟨.info, "Wait " ++ (secondsOf n).toPlain ++ "s"⟩])
    (Field.duration s)
  | .setSpeed s => cuesOf (fun n => [.say ⟨.info, "Speed " ++ toString n⟩, .send ⟨.speed, some n⟩])
    (Field.speed s)
  | .print m => cuesOf (fun m => [.say ⟨.info, m⟩]) (Field.message m)
  | .unsupported type _ => [.fail (.unsupported type)]

/-- The cues of some turns of a loop. -/
def turnCues (turns : Nat) (body : List Cue) : List Cue :=
  (List.replicate turns body).flatten

def Chain.script : Chain → List Cue
  | .nil => []
  | .block b next => b.script ++ next.script
  | .loop kind times body next =>
    cuesOf (fun n => .say ⟨.info, "Repeat " ++ toString n ++ "x"⟩ :: turnCues n body.script)
      (Field.times kind.defaultTimes times) ++ next.script

namespace Program

/-- What the blocks of a program show, sequence by sequence. -/
def script (p : Program) : List Cue := p.sequences.flatMap Chain.script

def opening : Cue := .say ⟨.success, "Starting..."⟩

def closing : List Cue := [.say ⟨.success, "Complete!"⟩, .send ⟨.stop, none⟩]

/-- What a whole run shows. -/
def fullScript (p : Program) : List Cue := opening :: p.script ++ closing

end Program

/-! ## How often blocks fail -/

def faults (cues : List Cue) : Nat := cues.countP Cue.isFail

/-- How many executions of blocks fail when a chain is run `times` times: a block in a loop is run
as many times as the turns of the loops around it multiply to. -/
def Chain.failures (times : Nat) : Chain → Nat
  | .nil => 0
  | .block b next => times * faults b.script + next.failures times
  | .loop kind count body next =>
    (match Field.times kind.defaultTimes count with
      | .ok n => body.failures (times * n)
      | .error _ => times) + next.failures times

def Program.failures (p : Program) : Nat := total (Chain.failures 1) p.sequences

@[simp] theorem faults_append (a b : List Cue) : faults (a ++ b) = faults a + faults b := by
  simp [faults]

@[simp] theorem faults_cons (cue : Cue) (cues : List Cue) :
    faults (cue :: cues) = faults cues + if cue.isFail then 1 else 0 := by
  simp [faults, List.countP_cons]

@[simp] theorem turnCues_nil (turns : Nat) : turnCues turns [] = [] := by simp [turnCues]

theorem turnCues_succ (turns : Nat) (body : List Cue) :
    turnCues (turns + 1) body = body ++ turnCues turns body := by
  simp [turnCues, List.replicate_succ]

theorem faults_turnCues (turns : Nat) (body : List Cue) :
    faults (turnCues turns body) = turns * faults body := by
  induction turns with
  | zero => simp [turnCues, faults]
  | succ turns ih => rw [turnCues_succ, faults_append, ih, Nat.add_mul]; omega

/-- A chain that runs some times fails as often as its script does, times that number. -/
theorem Chain.failures_eq (times : Nat) (c : Chain) : c.failures times = times * faults c.script := by
  induction c generalizing times with
  | nil => simp [failures, script, faults]
  | block b next ih => simp only [failures, script, faults_append, ih, Nat.mul_add]
  | loop kind count body next ihb ihn =>
    simp only [failures, script, faults_append, ihn, Nat.mul_add]
    cases Field.times kind.defaultTimes count with
    | error fault => simp [cuesOf, faults, Cue.isFail]
    | ok n => simp [cuesOf, Cue.isFail, faults_turnCues, ihb, Nat.mul_assoc]

theorem Program.failures_eq (p : Program) : p.failures = faults p.script := by
  simp only [failures, script]
  induction p.sequences with
  | nil => rfl
  | cons c cs ih => simp [ih, Chain.failures_eq]

/-- Beginning and ending a run never fails. -/
theorem Program.failures_fullScript (p : Program) : faults p.fullScript = p.failures := by
  simp [fullScript, opening, closing, Cue.isFail, failures_eq, faults]

/-! ## What is seen -/

/-- What is seen of a command: the answer of the channel, and an error if it was refused. -/
def sendMarks (command : Command) (taken : Bool) : List Mark :=
  .dispatch command taken ::
    if taken then []
    else [.event ⟨.error, "Robot unreachable, '" ++ command.action.name ++ "' not sent"⟩]

/-- What is seen of a script when the channel gives some answers; behind the last of them it takes
every command. -/
def play : List Bool → List Cue → List Mark
  | _, [] => []
  | answers, .say event :: rest => .event event :: play answers rest
  | answers, .fail fault :: rest => .fault fault :: play answers rest
  | answers, .send command :: rest =>
    sendMarks command (answers.headD true) ++ play answers.tail rest

def sends (cues : List Cue) : Nat := cues.countP Cue.isSend

@[simp] theorem sends_append (a b : List Cue) : sends (a ++ b) = sends a + sends b := by
  simp [sends]

@[simp] theorem sends_cons (cue : Cue) (cues : List Cue) :
    sends (cue :: cues) = sends cues + if cue.isSend then 1 else 0 := by
  simp [sends, List.countP_cons]

theorem play_append {answers : List Bool} {a : List Cue} (h : answers.length = sends a)
    (more : List Bool) (b : List Cue) :
    play (answers ++ more) (a ++ b) = play answers a ++ play more b := by
  induction a generalizing answers with
  | nil =>
    have : answers = [] := by simpa [sends] using h
    simp [this, play]
  | cons cue a ih =>
    cases cue with
    | say event => simp [play, ih (by simpa [Cue.isSend] using h)]
    | fail fault => simp [play, ih (by simpa [Cue.isSend] using h)]
    | send command =>
      cases answers with
      | nil => simp [Cue.isSend] at h
      | cons answer answers =>
        have := @ih answers (by simpa [Cue.isSend] using h)
        simp [play, this]

/-- A longer script shows more behind what a shorter one shows. -/
theorem play_prefix {answers : List Bool} {a b : List Cue} (h : answers.length = sends a)
    (hp : a <+: b) (more : List Bool) : play answers a <+: play (answers ++ more) b := by
  obtain ⟨rest, rfl⟩ := hp
  exact ⟨play more rest, (play_append h more rest).symm⟩

theorem countP_isFault_play (answers : List Bool) (cues : List Cue) :
    (play answers cues).countP Mark.isFault = faults cues := by
  induction cues generalizing answers with
  | nil => rfl
  | cons cue cues ih =>
    cases cue with
    | say event => simp [play, Cue.isFail, Mark.isFault, ih]
    | fail fault => simp [play, List.countP_cons, Cue.isFail, Mark.isFault, ih]
    | send command =>
      have : (sendMarks command (answers.headD true)).countP Mark.isFault = 0 := by
        unfold sendMarks; split <;> simp [Mark.isFault]
      simp only [play, List.countP_append, this, ih, faults_cons, Cue.isFail]
      simp

namespace Effect

/-- What can be seen of an effect. -/
def marks : Effect → List Mark
  | .emitted e => [.event e]
  | .failed _ fault => [.fault fault]
  | .sent d => [.dispatch d.command true]
  | .refused command _ => [.dispatch command false]
  | .began | .planned .. | .raised _ | .finished .. => []

/-- The answer of the channel that an effect tells of. -/
def answer? : Effect → Option Bool
  | .sent _ => some true
  | .refused .. => some false
  | _ => none

end Effect

/-! ## What the effects leave behind -/

/-- The events that a mark leaves in the log. -/
def Mark.events : Mark → List Event
  | .event e => [e]
  | .fault f => [⟨.error, f.message⟩]
  | .dispatch .. => []

/-- The command of a mark that the channel took. -/
def Mark.taken? : Mark → Option Command
  | .dispatch command true => some command
  | _ => none

namespace Controller

/-- What is seen of an effect is what it adds to the log, unless a run begins. -/
theorem log_apply (c : Controller) (e : Effect) (h : e ≠ .began) :
    (c.apply e).log = (e.marks.flatMap Mark.events).foldl EventLog.emit c.log := by
  cases e with
  | began => exact absurd rfl h
  | raised signal => cases signal <;> rfl
  | planned | emitted | failed | sent | refused | finished => rfl

theorem log_foldl (effects : List Effect) (h : ∀ e ∈ effects, e ≠ .began) (c : Controller) :
    (effects.foldl apply c).log =
      ((effects.flatMap Effect.marks).flatMap Mark.events).foldl EventLog.emit c.log := by
  induction effects generalizing c with
  | nil => rfl
  | cons e effects ih =>
    rw [List.foldl_cons, ih (fun x hx => h x (by simp [hx])), log_apply c e (h e (by simp))]
    simp

theorem records_apply {c : Controller} {r : Recorder} (hc : c.channel = .recorder r) (e : Effect) :
    ∃ r', (c.apply e).channel = .recorder r' ∧ r'.reachable = r.reachable ∧
      r'.records.map (·.command) =
        (e.marks.filterMap Mark.taken?).reverse ++ r.records.map (·.command) := by
  cases e with
  | began =>
    refine ⟨r, ?_, rfl, rfl⟩
    simp only [apply, beginRun]
    split <;> exact hc
  | raised signal =>
    refine ⟨r, ?_, rfl, rfl⟩
    cases signal <;> exact hc
  | planned | emitted | failed | finished => exact ⟨r, hc, rfl, rfl⟩
  | sent d =>
    exact ⟨{ r with records := d :: r.records, connected := true, reports := r.reports + 1 },
      by simp [apply, hc, Channel.record], rfl, rfl⟩
  | refused command reason =>
    exact ⟨{ r with connected := false, reports := r.reports + 1 },
      by simp [apply, hc, Channel.refuse], rfl, rfl⟩

/-- What a recorder records is what is seen to be taken. -/
theorem records_foldl (effects : List Effect) {c : Controller} {r : Recorder}
    (hc : c.channel = .recorder r) :
    ∃ r', (effects.foldl apply c).channel = .recorder r' ∧ r'.reachable = r.reachable ∧
      r'.records.map (·.command) =
        ((effects.flatMap Effect.marks).filterMap Mark.taken?).reverse ++
          r.records.map (·.command) := by
  induction effects generalizing c r with
  | nil => exact ⟨r, hc, rfl, rfl⟩
  | cons e effects ih =>
    obtain ⟨r₁, h₁, s₁, e₁⟩ := records_apply hc e
    obtain ⟨r₂, h₂, s₂, e₂⟩ := ih h₁
    exact ⟨r₂, h₂, s₂.trans s₁, by simp [e₂, e₁]⟩

end Controller

/-! ## Effects that play cues -/

/-- Some effects are what cues give for the answers that the effects tell of. -/
structure Plays (effects : List Effect) (cues : List Cue) : Prop where
  answered : (effects.filterMap Effect.answer?).length = sends cues
  shown : effects.flatMap Effect.marks = play (effects.filterMap Effect.answer?) cues

namespace Plays

theorem nil : Plays [] [] := ⟨rfl, rfl⟩

theorem append {e f : List Effect} {a b : List Cue} (h : Plays e a) (h' : Plays f b) :
    Plays (e ++ f) (a ++ b) where
  answered := by
    rw [List.filterMap_append, List.length_append, sends_append, h.answered, h'.answered]
  shown := by
    rw [List.flatMap_append, List.filterMap_append, play_append h.answered, h.shown, h'.shown]

theorem emitted (event : Event) : Plays [.emitted event] [.say event] := ⟨rfl, rfl⟩

theorem failed (kind : BlockKind) (fault : NodeFault) : Plays [.failed kind fault] [.fail fault] :=
  ⟨rfl, rfl⟩

theorem sent (command : Command) (moment : Duration) : Plays [.sent ⟨command, moment⟩] [.send command] :=
  ⟨rfl, rfl⟩

theorem refused (command : Command) (reason : Option Failure) :
    Plays [.refused command reason,
      .emitted ⟨.error, "Robot unreachable, '" ++ command.action.name ++ "' not sent"⟩]
      [.send command] :=
  ⟨rfl, rfl⟩

/-- Beginning and ending a run shows nothing by itself. -/
theorem finished (ticket : Ticket) (outcome : Outcome) (errors : Nat) :
    Plays [.finished ticket outcome errors] [] := ⟨rfl, rfl⟩

theorem began (sequences nodes : Nat) :
    Plays [.began, .emitted ⟨.success, "Starting..."⟩, .planned sequences nodes]
      [Program.opening] := ⟨rfl, rfl⟩

end Plays

end BlockPilot
