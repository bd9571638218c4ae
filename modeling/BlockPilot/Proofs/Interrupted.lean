import BlockPilot.Proofs.Story
import BlockPilot.Proofs.Unstopped

/-!
# A run that is interrupted

Wherever a run is told to stop, by a stop, by an emergency stop or by a newer run, what its blocks
have shown begins what they would have shown, and nothing is added to it (`Floor.silenced`).
-/

namespace BlockPilot

namespace Floor

variable {f : Floor}

/-- The token is later behind a turn. -/
theorem Sound.later (h : f.Sound) (turn : Turn) :
    Token.Later f.controller.token (f.step turn).controller.token := by
  rcases step_cases f turn with ⟨callers, token⟩ | ⟨request, free, eq⟩ |
    ⟨i, caller, r, here, move, -, floor, controller⟩
  · rw [token]
    exact Token.Later.refl _
  · rw [eq]
    exact Token.Later.refl _
  · rw [controller]
    exact (move.handed fun p rest ht => (h.stage i caller here).ticket_of_begin ht).later

/-- A run that has to stop, or is over, shows nothing at a turn, and has to stop or is over behind
it. -/
theorem Sound.silent (h : f.Sound) {i : Nat} {p : Program} {call : Call}
    (hi : f.callers[i]? = some ⟨.run p, call⟩)
    (hs : call.stops f.controller = true ∨ call.tasks = []) (turn : Turn) :
    ∃ new, (f.step turn).callers[i]? = some ⟨.run p, new⟩ ∧ new.marks = call.marks ∧
      (new.stops (f.step turn).controller = true ∨ new.tasks = []) := by
  have hstage : RunStage p (call.stops f.controller) call := h.stage i _ hi
  obtain ⟨⟨request, new⟩, hnew, hr, hcall⟩ := step_caller_of hi turn
  obtain rfl : request = .run p := hr
  refine ⟨new, hnew, ?_⟩
  rcases hcall with hcall | ⟨r, hmove, hc, hcall⟩
  · obtain rfl : new = call := hcall
    refine ⟨rfl, hs.imp_left fun hs => ?_⟩
    cases hk : new.ticket with
    | none => simp [Call.stops_of_none hk] at hs
    | some k =>
      rw [Call.stops_of_some hk] at hs ⊢
      exact (h.later turn).stops (h.owned.known k (mem_tickets hi hk)) hs
  · obtain rfl : new = r.2 := hcall
    rw [hc]
    cases hmove with
    | drop => exact ⟨rfl, Or.inr rfl⟩
    | next =>
      rcases hs with hs | ho
      · have hnext := RunStage.doNext (c := f.controller) hstage
        rw [hs] at hstage hnext
        exact ⟨hstage.marks_doNext hs, hnext.2⟩
      · rw [Call.doNext_nil ho]
        exact ⟨rfl, Or.inr ho⟩

/-- **Silence.** A run that has to stop at one of the turns shows nothing behind it. -/
theorem silenced (h : f.Sound) {i : Nat} {p : Program} {call : Call}
    (hi : f.callers[i]? = some ⟨.run p, call⟩)
    (hs : call.stops f.controller = true ∨ call.tasks = []) (turns : List Turn) :
    ∃ new, (f.run turns).callers[i]? = some ⟨.run p, new⟩ ∧ new.marks = call.marks := by
  induction turns generalizing f call with
  | nil => exact ⟨call, hi, rfl⟩
  | cons turn turns ih =>
    obtain ⟨new, hnew, hm, hs'⟩ := h.silent hi hs turn
    obtain ⟨last, hlast, hm'⟩ := ih (h.step turn) hnew hs'
    exact ⟨last, hlast, hm'.trans hm⟩

/-- A run that has to stop, or is over, has no part in the story that can be seen. -/
theorem marks_of_silenced (h : f.Sound) {i : Nat} {p : Program} {call : Call}
    (hi : f.callers[i]? = some ⟨.run p, call⟩)
    (hs : call.stops f.controller = true ∨ call.tasks = []) (turns : List Turn) {e : Effect}
    (he : (i, e) ∈ f.story turns) : e.marks = [] := by
  obtain ⟨new, hnew, hm⟩ := silenced h hi hs turns
  have hmarks := marks_run hnew
  rw [told_eq hi] at hmarks
  have hnil : ((f.story turns).filter (·.1 == i)).flatMap (·.2.marks) = [] :=
    List.append_right_eq_self.1 (hmarks.symm.trans hm)
  exact List.flatMap_eq_nil_iff.1 hnil (i, e) (List.mem_filter.2 ⟨he, by simp⟩)

end Floor

/-! ## What the blocks have shown -/

theorem play_extra {answers : List Bool} {cues : List Cue} (h : answers.length = sends cues)
    (more : List Bool) : play (answers ++ more) cues = play answers cues := by
  have := play_append h more []
  simpa [play] using this

/-- What a complete run has shown: its blocks, and then the end with the answer to its stop
command. -/
theorem play_fullScript {p : Program} {answers : List Bool} (h : answers.length = sends p.fullScript) :
    ∃ nodes taken, answers = nodes ++ [taken] ∧ nodes.length = sends p.script ∧
      play answers p.fullScript = .event ⟨.success, "Starting..."⟩ :: play nodes p.script ++
        .event ⟨.success, "Complete!"⟩ :: sendMarks ⟨.stop, none⟩ taken := by
  have hlen : answers.length = sends p.script + 1 := by
    simpa [Program.fullScript, Program.opening, Program.closing, Cue.isSend, sends] using h
  have hne : answers ≠ [] := by
    rintro rfl
    simp at hlen
  have hnodes : answers.dropLast.length = sends p.script := by simp [hlen]
  refine ⟨answers.dropLast, answers.getLast hne, (List.dropLast_append_getLast hne).symm, hnodes, ?_⟩
  have hplay := play_append hnodes [answers.getLast hne] Program.closing
  rw [List.dropLast_append_getLast hne] at hplay
  have hclosing (taken : Bool) : play [taken] Program.closing =
      .event ⟨.success, "Complete!"⟩ :: sendMarks ⟨.stop, none⟩ taken := by
    simp [Program.closing, play]
  simp only [Program.fullScript, Program.opening, List.cons_append, play, hplay, hclosing]

/-- What a run that ended has shown: after its beginning `nodes`, which begins what the blocks of
its program show for the same answers, and the end only where it is complete. -/
structure Call.Cut (p : Program) (call : Call) (outcome : Outcome) (errors : Nat) (nodes : List Mark) :
    Prop where
  errors : errors = nodes.countP Mark.isFault
  begins : ∀ more, nodes <+: play (call.answers ++ more) p.script
  stopped : outcome = .stopped → call.marks = .event ⟨.success, "Starting..."⟩ :: nodes
  completed : outcome = .completed → nodes = play call.answers p.script ∧
    ∃ taken, call.marks = .event ⟨.success, "Starting..."⟩ :: nodes ++
      .event ⟨.success, "Complete!"⟩ :: sendMarks ⟨.stop, none⟩ taken
  unstopped : ∀ world, Calm world → call.answers <+: ((Call.run p).doAll world).answers →
    ∃ rest taken, ((Call.run p).doAll world).marks =
        .event ⟨.success, "Starting..."⟩ :: (nodes ++ rest) ++
          .event ⟨.success, "Complete!"⟩ :: sendMarks ⟨.stop, none⟩ taken ∧
      (outcome = .completed → rest = [])

namespace Call

variable {p : Program} {call : Call}

theorem Cut.of_stopped {cues : List Cue} {answer : Option Answer} (hp : cues <+: p.script)
    (h : call.At [] none answer (Program.opening :: cues)) :
    call.Cut p .stopped (faults cues) (play call.answers cues) := by
  have hlen : call.answers.length = sends cues := by
    have : call.answers.length = sends (Program.opening :: cues) := h.shown.answered
    simpa [Program.opening, Cue.isSend] using this
  have hmarks : call.marks = .event ⟨.success, "Starting..."⟩ :: play call.answers cues := h.shown.shown
  refine ⟨(countP_isFault_play _ _).symm, play_prefix hlen hp, fun _ => hmarks, (by rintro ⟨⟩), ?_⟩
  intro world hc hpre
  have hw := RunStage.whole_run (p := p) hc
  obtain ⟨answers, taken, ha, hn, hplay⟩ := play_fullScript hw.answered
  -- the answers to the blocks alone go on from the answers of the run that was stopped
  have hle : call.answers.length ≤ answers.length := by
    obtain ⟨rest, hrest⟩ := hp
    rw [hlen, hn, ← hrest, sends_append]
    exact Nat.le_add_right _ _
  obtain ⟨more, rfl⟩ : call.answers <+: answers :=
    List.prefix_of_prefix_length_le (ha ▸ hpre) (List.prefix_append _ _) hle
  obtain ⟨rest, hrest⟩ := play_prefix hlen hp more
  exact ⟨rest, taken, by rw [hw.shown, hplay, ← hrest], (by rintro ⟨⟩)⟩

theorem Cut.of_completed (h : call.Whole p) :
    ∃ nodes, call.Cut p .completed p.failures nodes := by
  obtain ⟨answers, taken, ha, hn, hplay⟩ := play_fullScript h.answered
  have hall : play call.answers p.script = play answers p.script := by rw [ha, play_extra hn]
  refine ⟨play answers p.script, ?_, fun more => ?_, (by rintro ⟨⟩), fun _ => ⟨hall.symm, taken, ?_⟩, ?_⟩
  · rw [countP_isFault_play, p.failures_eq]
  · have hmore : play (call.answers ++ more) p.script = play answers p.script := by
      rw [ha, List.append_assoc, play_extra hn]
    exact ⟨[], by rw [hmore, List.append_nil]⟩
  · rw [h.shown, hplay]
  · intro world hc hpre
    have hw := RunStage.whole_run (p := p) hc
    obtain ⟨answers', taken', ha', hn', hplay'⟩ := play_fullScript hw.answered
    -- both runs have as many answers as the script has commands
    have hsame : call.answers = ((Call.run p).doAll world).answers :=
      hpre.eq_of_length (h.answered.trans hw.answered.symm)
    obtain ⟨rfl, -⟩ : answers = answers' ∧ [taken] = [taken'] :=
      List.append_inj (by rw [← ha, ← ha', hsame]) (hn.trans hn'.symm)
    exact ⟨[], taken', by rw [hw.shown, hplay', List.append_nil], fun _ => rfl⟩

end Call

/-- **Interruption.** Take any calls of a controller and let them take turns in any order, with fewer
than `2 ^ 64` runs (`Floor.tickets_fit`). Of every run that reports that it is complete or that it
was stopped holds: what its blocks have shown begins what they show for the same answers when nobody
stops it, and all of it if the run is complete, which ends with one event and one stop command;
nothing was added behind a turn at which it had to stop; it reports that it is complete exactly if it
did not have to stop behind its last sequence; and its errors are the blocks that it could not run.
What it has shown is its part of the story of all the turns, and the log and the records are what
that story makes of them. -/
theorem interrupted_run_plays_prefix (channel : Channel) (log : EventLog) (pacing : Duration)
    (turns : List Turn) (i : Nat) (p : Program) (call : Call) (outcome : Outcome) (errors : Nat)
    (hi : ((Floor.new (.new channel log pacing)).run turns).callers[i]? = some ⟨.run p, call⟩)
    (ha : call.answer = some (.ran outcome errors)) (ho : outcome ≠ .alreadyRunning) :
    let f := Floor.new (.new channel log pacing)
    (∃ nodes, call.Cut p outcome errors nodes) ∧
    (∀ before after, turns = before ++ after → (f.run before).halts i = true →
      ∃ earlier, (f.run before).callers[i]? = some ⟨.run p, earlier⟩ ∧ earlier.marks = call.marks) ∧
    (∃ before after last, turns = before ++ .work :: after ∧ (f.run before).holder = some i ∧
      (f.run before).callers[i]? = some ⟨.run p, last⟩ ∧ last.tasks = [.conclude] ∧
      (outcome = .completed ↔ (f.run before).halts i = false)) ∧
    call.marks = ((f.story turns).filter (·.1 == i)).flatMap (·.2.marks) ∧
    (f.run turns).controller.log = ((f.story turns).map Prod.snd).foldl EventLog.write log ∧
    (channel.isRecorder = true → (f.run turns).controller.channel.records.map (·.command) =
      (((f.story turns).flatMap (·.2.marks)).filterMap Mark.taken?).reverse ++
        channel.records.map (·.command)) := by
  intro f
  have hsound : f.Sound := Floor.sound_new channel log pacing
  have hstage : RunStage p _ call := (Floor.sound_run hsound turns).stage i _ hi
  refine ⟨?_, ?_, ?_, f.marks_run hi, f.log_run turns, fun hr => f.commands_run hr turns⟩
  · rcases hstage.answered ha ho with ⟨rfl, nodes, hp, at_⟩ | ⟨rfl, at_⟩
    · obtain rfl : faults nodes = errors := by simpa using at_.answer.symm.trans ha
      exact ⟨_, .of_stopped hp at_⟩
    · obtain rfl : p.failures = errors := by simpa using at_.answer.symm.trans ha
      exact Call.Cut.of_completed (.of_at at_)
  · rintro before after rfl hh
    rw [Floor.run_append] at hi
    cases hb : (f.run before).callers[i]? with
    | none => simp [Floor.halts, hb] at hh
    | some caller =>
      rw [Floor.halts_eq hb] at hh
      obtain ⟨request, earlier⟩ := caller
      obtain ⟨new, hnew, hr⟩ := Floor.run_caller_of hb after
      obtain rfl : request = .run p := by
        cases hi.symm.trans hnew
        exact hr.symm
      obtain ⟨last, hlast, hm⟩ :=
        Floor.silenced (Floor.sound_run hsound before) hb (Or.inl hh) after
      refine ⟨earlier, rfl, ?_⟩
      rw [hi] at hlast
      cases hlast
      exact hm.symm
  · obtain ⟨before, after, last, hturns, hh, hlast, ht, hd⟩ :=
      Floor.decided hsound rfl turns hi (Or.inr ⟨errors, ha⟩) ho
    exact ⟨before, after, last, hturns, hh, hlast, ht, by rw [hd, Floor.halts_eq hlast]⟩

/-- A run that is stopped in the pause behind its second block. -/
theorem interrupted_run_plays_prefix_in_pause :
    let p := Program.ofChains [.block (.unsupported "spin" []) .stop, .move .forward]
    let f := Floor.new (.new (.recorder (.new 0)) (.new 8) 0)
    let rest := List.replicate 7 .work ++ [.yield, .ask .stop] ++ List.replicate 4 .work ++
      [.yield, .wake 0] ++ List.replicate 8 .work
    ∃ call nodes, (f.run (.ask (.run p) :: rest)).callers[0]? = some ⟨.run p, call⟩ ∧
      call.Cut p .stopped 1 nodes := by
  intro p f rest
  have hfirst : (f.step (.ask (.run p))).callers[0]? = some ⟨.run p, .run p⟩ := rfl
  obtain ⟨⟨request, call⟩, hi, hr⟩ := Floor.run_caller_of hfirst rest
  obtain rfl : request = .run p := hr
  have ha : ((f.step (.ask (.run p))).run rest).callers[0]?.bind (·.call.answer) =
      some (.ran .stopped 1) := by decide +kernel
  rw [hi] at ha
  rw [← Floor.run_cons] at hi
  obtain ⟨⟨nodes, hcut⟩, -⟩ := interrupted_run_plays_prefix (.recorder (.new 0)) (.new 8) 0 _ 0 p call
    .stopped 1 hi ha (by decide)
  exact ⟨call, nodes, hi, hcut⟩

end BlockPilot
