import BlockPilot.Proofs.Interrupted

/-!
# Runs that follow one another

Each run takes one ticket, at the turn at which it begins (`Floor.took`), and keeps it until it is
over (`Floor.Sound.served`). Numbers of tickets grow, so a run with a smaller number began earlier;
from the turn on at which a newer run begins it is superseded, wherever it sleeps, and only unwinds
(`Floor.runs_never_interleave`).
-/

namespace BlockPilot

namespace Floor

/-- The call with a number holds a ticket. -/
def Holds (f : Floor) (i : Nat) (k : Ticket) : Prop :=
  f.callers[i]?.bind (·.call.ticket) = some k

/-- The call that has the floor is going to take a ticket as its next task. -/
structure Takes (f : Floor) (i : Nat) (k : Ticket) : Prop where
  holder : f.holder = some i
  asks : ∃ caller p rest, f.callers[i]? = some caller ∧ caller.call.tasks = .begin p :: rest
  gets : ∃ t, f.controller.token.begin? = some (k, t)

/-- The call with a number is a run that has had a ticket: it holds the ticket or is over. -/
def Served (f : Floor) (i : Nat) (k : Ticket) : Prop :=
  ∃ p call, f.callers[i]? = some ⟨.run p, call⟩ ∧ (call.ticket = some k ∨ call.tasks = [])

variable {f : Floor} {i j : Nat} {k l : Ticket}

theorem holds_iff :
    f.Holds i k ↔ ∃ caller, f.callers[i]? = some caller ∧ caller.call.ticket = some k := by
  rw [Holds, Option.bind_eq_some_iff]

/-! ## Taking a ticket -/

/-- What is told at the turn at which a run begins. -/
theorem Takes.deeds (h : f.Takes i k) : ∃ sequences nodes, f.deeds .work =
    [(i, .began), (i, .emitted ⟨.success, "Starting..."⟩), (i, .planned sequences nodes)] := by
  obtain ⟨caller, p, rest, hc, ht⟩ := h.asks
  obtain ⟨t, hb⟩ := h.gets
  refine ⟨p.sequences.length, p.count, ?_⟩
  simp [Floor.deeds, h.holder, hc, Call.effects_cons ht, Call.perform, Call.doBegin, hb]

theorem Takes.holds (h : f.Takes i k) : (f.step .work).Holds i k := by
  obtain ⟨caller, p, rest, hc, ht⟩ := h.asks
  obtain ⟨t, hb⟩ := h.gets
  have hi := (List.getElem?_eq_some_iff.1 hc).1
  rw [step_work h.holder hc, Call.doNext_cons ht]
  simp [Holds, put, List.getElem?_set_self hi, Call.perform, Call.doBegin, hb, Call.traced, Call.push]

theorem Takes.token (h : f.Takes i k) :
    k.generation = f.controller.token.generation + 1 ∧
      (f.step .work).controller.token.generation = k.generation := by
  obtain ⟨caller, p, rest, hc, ht⟩ := h.asks
  obtain ⟨t, hb⟩ := h.gets
  have htoken : (f.step .work).controller.token = t := by
    rw [step_work h.holder hc, Call.doNext_cons ht]
    simp [put, Call.perform, Call.doBegin, hb, Controller.apply, Controller.beginRun]
  obtain ⟨-, hk, hg, -, -⟩ := Token.begin?_eq_some hb
  rw [htoken]
  exact ⟨hk, hg.trans hk.symm⟩

/-- A ticket that is held was held before, or it was taken at this turn. -/
theorem Sound.held (h : f.Sound) {turn : Turn} (hk : (f.step turn).Holds i k) :
    f.Holds i k ∨ turn = .work ∧ f.Takes i k := by
  obtain ⟨new, hnew, hticket⟩ := holds_iff.1 hk
  rcases step_caller hnew with hasked | ⟨old, hold, -, hcall | ⟨r, hmove, -, hcall, hwhen⟩⟩
  · rw [hasked] at hticket
    have : new.request.call.ticket = none := by cases new.request <;> rfl
    simp [this] at hticket
  · exact Or.inl (holds_iff.2 ⟨old, hold, hcall ▸ hticket⟩)
  · rw [hcall] at hticket
    cases hmove with
    | drop => simp [Call.dropped] at hticket
    | next =>
      cases ht : old.call.tasks with
      | nil =>
        rw [Call.doNext_nil ht] at hticket
        exact Or.inl (holds_iff.2 ⟨old, hold, hticket⟩)
      | cons task rest =>
        by_cases hb : ∃ p, task = .begin p
        · obtain ⟨p, rfl⟩ := hb
          obtain ⟨rfl, hh⟩ : turn = .work ∧ f.holder = some i := by
            rcases hwhen with hwhen | ha
            · exact hwhen
            · simp [Call.isAsleep, ht] at ha
          refine Or.inr ⟨rfl, hh, ⟨old, p, rest, hold, ht⟩, ?_⟩
          have hnone := (h.stage i old hold).ticket_of_begin ht
          rw [Call.doNext_cons ht] at hticket
          cases hg : f.controller.token.begin? with
          | none => simp [Call.perform, Call.doBegin, hg, Call.traced, hnone] at hticket
          | some s =>
            obtain ⟨l, t⟩ := s
            obtain rfl : l = k := by
              simpa [Call.perform, Call.doBegin, hg, Call.traced, Call.push] using hticket
            exact ⟨t, rfl⟩
        · by_cases hf : ∃ o, task = .finish o
          · obtain ⟨o, rfl⟩ := hf
            rw [Call.doNext_cons ht] at hticket
            simp [Call.perform, Call.doFinish, Call.traced] at hticket
          · rw [Call.ticket_doNext ht (fun p e => hb ⟨p, e⟩) fun o e => hf ⟨o, e⟩] at hticket
            exact Or.inl (holds_iff.2 ⟨old, hold, hticket⟩)

/-- A ticket that is held was taken at one of the turns. -/
theorem took (h : f.Sound) (hn : f.callers = []) (turns : List Turn) (hk : (f.run turns).Holds i k) :
    ∃ before after, turns = before ++ .work :: after ∧ (f.run before).Takes i k := by
  induction turns using List.reverseRecOn with
  | nil => simp [Holds, hn] at hk
  | append_singleton turns turn ih =>
    rw [run_append, run_cons, run_nil] at hk
    rcases (sound_run h turns).held hk with hk | ⟨rfl, ht⟩
    · obtain ⟨before, after, rfl, ht⟩ := ih hk
      exact ⟨before, after ++ [turn], by simp, ht⟩
    · exact ⟨turns, [], rfl, ht⟩

/-! ## Keeping a ticket -/

theorem Sound.served_of_holds (h : f.Sound) (hk : f.Holds i k) : f.Served i k := by
  obtain ⟨⟨request, call⟩, hc, hticket⟩ := holds_iff.1 hk
  have aside (ha : Aside call) : f.Served i k := by
    rw [ha.ticket] at hticket
    cases hticket
  cases request with
  | run p => exact ⟨p, call, hc, Or.inl hticket⟩
  | stop | emergencyStop | testConnection => exact aside (h.stage i _ hc)

/-- A run keeps its ticket until it is over. -/
theorem Sound.served (h : f.Sound) (hk : f.Served i k) (turn : Turn) : (f.step turn).Served i k := by
  obtain ⟨p, call, hc, hs⟩ := hk
  obtain ⟨⟨request, new⟩, hnew, hr, hcall⟩ := step_caller_of hc turn
  obtain rfl : request = .run p := hr
  refine ⟨p, new, hnew, ?_⟩
  rcases hcall with hcall | ⟨r, hmove, -, hcall⟩
  · obtain rfl : new = call := hcall
    exact hs
  · obtain rfl : new = r.2 := hcall
    cases hmove with
    | drop => exact Or.inr rfl
    | next =>
      cases ht : call.tasks with
      | nil =>
        rw [Call.doNext_nil ht]
        exact Or.inr ht
      | cons task rest =>
        have hticket : call.ticket = some k := by simpa [ht] using hs
        have hstage : RunStage p (call.stops f.controller) call := h.stage i _ hc
        have hfront := hstage.front ht
        by_cases hf : ∃ o, task = .finish o
        · -- a run finishes with its last task
          obtain ⟨o, rfl⟩ := hf
          obtain rfl : rest = [] := by
            rcases hfront with hl | ha | ⟨hr, -⟩
            · cases hl
            · cases ha
            · exact hr
          right
          rw [Call.doNext_cons ht]
          rfl
        · left
          rw [Call.ticket_doNext ht ?_ fun o e => hf ⟨o, e⟩, hticket]
          rintro q rfl
          simp [Task.looks, Task.acts, hticket] at hfront

theorem served_run (h : f.Sound) (hk : f.Served i k) (turns : List Turn) : (f.run turns).Served i k := by
  induction turns generalizing f with
  | nil => exact hk
  | cons turn turns ih => exact ih (h.step turn) (h.served hk turn)

theorem later_run (h : f.Sound) (turns : List Turn) :
    Token.Later f.controller.token (f.run turns).controller.token := by
  induction turns generalizing f with
  | nil => exact Token.Later.refl _
  | cons turn turns ih => exact (h.later turn).trans (ih (h.step turn))

/-- A run that has had its ticket does not begin again. -/
theorem Sound.not_began (h : f.Sound) (hk : f.Served i k) {caller : Caller}
    (hc : f.callers[i]? = some caller) : .began ∉ caller.call.effects f.controller := by
  obtain ⟨p, call, hc', hs⟩ := hk
  obtain rfl : caller = ⟨.run p, call⟩ := by simpa using hc.symm.trans hc'
  intro he
  cases ht : call.tasks with
  | nil => simp [Call.effects, ht] at he
  | cons task rest =>
    rw [Call.effects_cons ht] at he
    by_cases hb : ∃ q, task = .begin q
    · obtain ⟨q, rfl⟩ := hb
      have hnone := (h.stage i _ hc).ticket_of_begin ht
      rcases hs with hs | hs
      · rw [show call.ticket = none from hnone] at hs
        cases hs
      · rw [ht] at hs
        cases hs
    · exact Call.perform_ne_began _ _ (fun q e => hb ⟨q, e⟩) _ he rfl

/-! ## Behind the beginning of a newer run -/

/-- A run that has had its ticket is superseded as soon as the token has a greater number. -/
theorem Served.stops (hk : f.Served i k) (hg : k.generation < f.controller.token.generation) :
    ∃ p call, f.callers[i]? = some ⟨.run p, call⟩ ∧
      (call.stops f.controller = true ∨ call.tasks = []) := by
  obtain ⟨p, call, hc, hs⟩ := hk
  refine ⟨p, call, hc, hs.imp_left fun hs => ?_⟩
  rw [Call.stops_of_some hs, Token.stops_eq_true]
  exact Or.inl (by omega)

/-- What a run still does that a newer one has followed at the first of the turns: nothing that can be
seen, so that the log is as the other calls write it and holds nothing but what they have emitted behind
the clear; and when it gives its ticket back the token stays as it is. -/
structure Outlived (f : Floor) (i : Nat) (k : Ticket) (turns : List Turn) : Prop where
  silent : ∀ e, (i, e) ∈ f.story turns → e.marks = []
  log : ∀ part, part <+: turns → (f.run part).controller.log =
    (((f.story part).filter (·.1 != i)).map Prod.snd).foldl EventLog.write f.controller.log
  retained : ∀ part, part <+: turns → part ≠ [] → ∀ event ∈ (f.run part).controller.log.events,
    ∃ n e, (n, e) ∈ f.story part ∧ n ≠ i ∧ event ∈ e.marks.flatMap Mark.events
  token : ∀ part turn rest, turns = part ++ turn :: rest → (f.run part).Holds i k →
    ¬ ((f.run part).step turn).Holds i k →
      ((f.run part).step turn).controller.token = (f.run part).controller.token

theorem silent_run (h : f.Sound) (hk : f.Served i k)
    (hg : k.generation < f.controller.token.generation) (turns : List Turn) {e : Effect}
    (he : (i, e) ∈ f.story turns) : e.marks = [] ∧ e ≠ .began := by
  obtain ⟨p, call, hc, hs⟩ := hk.stops hg
  refine ⟨marks_of_silenced h hc hs turns he, ?_⟩
  rintro rfl
  obtain ⟨before, after, caller, rfl, -, hcaller, hmem⟩ := mem_story he
  exact (sound_run h before).not_began (served_run h hk before) hcaller hmem

/-- Effects that leave the log alone can be left out. -/
theorem foldl_write_filter {story : List (Nat × Effect)}
    (h : ∀ e, (i, e) ∈ story → e.marks = [] ∧ e ≠ .began) (log : EventLog) :
    (story.map Prod.snd).foldl EventLog.write log =
      ((story.filter (·.1 != i)).map Prod.snd).foldl EventLog.write log := by
  induction story generalizing log with
  | nil => rfl
  | cons entry story ih =>
    obtain ⟨n, e⟩ := entry
    have ih := ih fun e he => h e (List.mem_cons_of_mem _ he)
    by_cases hn : n = i
    · subst hn
      obtain ⟨hm, hb⟩ := h e (by simp)
      have hw : log.write e = log := by
        cases e with
        | began => exact absurd rfl hb
        | planned | emitted | failed | sent | refused | raised | finished =>
          simp [EventLog.write, hm]
      rw [List.map_cons, List.foldl_cons, hw, ih, List.filter_cons_of_neg (by simp)]
    · rw [List.map_cons, List.foldl_cons, ih, List.filter_cons_of_pos (by simpa using hn),
        List.map_cons, List.foldl_cons]

/-- Behind the beginning of a run an event is in the log only if it was written since. -/
theorem mem_story_of_cleared {story : List (Nat × Effect)} {log : EventLog} {event : Event}
    (hbegan : (story.map Prod.snd).head? = some .began)
    (h : event ∈ ((story.map Prod.snd).foldl EventLog.write log).events) :
    ∃ n e, (n, e) ∈ story ∧ event ∈ e.marks.flatMap Mark.events := by
  cases story with
  | nil => cases hbegan
  | cons entry story =>
    obtain ⟨n, e⟩ := entry
    obtain rfl : e = .began := Option.some.inj hbegan
    rw [List.map_cons, List.foldl_cons] at h
    rcases EventLog.mem_foldl_write h with hold | ⟨e, he, hwrote⟩
    · cases hold
    · obtain ⟨⟨m, e'⟩, hmem, rfl⟩ := List.mem_map.1 he
      exact ⟨m, e', List.mem_cons_of_mem _ hmem, hwrote⟩

/-- A superseded run that gives its ticket back, or is dropped, leaves the token alone. -/
theorem Sound.token_of_back (h : f.Sound) (hg : k.generation < f.controller.token.generation)
    {turn : Turn} (hk : f.Holds i k) (hb : ¬ (f.step turn).Holds i k) :
    (f.step turn).controller.token = f.controller.token := by
  obtain ⟨old, hold, hticket⟩ := holds_iff.1 hk
  rcases step_cases f turn with ⟨-, token⟩ | ⟨request, free, eq⟩ |
    ⟨j, caller, r, here, move, -, -, controller, callers⟩
  · exact token
  · rw [eq]
  · have handed := move.handed fun p rest ht => (h.stage j caller here).ticket_of_begin ht
    have hj : j = i := by
      by_contra hj
      refine hb (holds_iff.2 ⟨old, ?_, hticket⟩)
      rw [callers, List.getElem?_set_ne hj, hold]
    subst hj
    obtain rfl : caller = old := by simpa using here.symm.trans hold
    have hgone : r.2.ticket ≠ some k := by
      intro hr
      refine hb (holds_iff.2 ⟨{ caller with call := r.2 }, ?_, hr⟩)
      rw [callers, List.getElem?_set_self (List.getElem?_eq_some_iff.1 here).1]
    rw [controller]
    rw [hticket] at handed
    generalize r.2.ticket = left at handed hgone
    cases handed with
    | kept he => exact he
    | stop | emergency => exact absurd rfl hgone
    | back _ he =>
      have hsup : f.controller.token.supersedes k = true := by
        simp only [Token.supersedes, bne_iff_ne]
        omega
      rw [he, Token.release, if_pos hsup]

/-- A run that begins is another one than those that have had their tickets. -/
theorem Takes.ne_of_served (ht : f.Takes j l) (h : f.Sound) (hk : f.Served i k) : j ≠ i := by
  rintro rfl
  obtain ⟨caller, p, rest, hc, hb⟩ := ht.asks
  obtain ⟨t, hget⟩ := ht.gets
  refine h.not_began hk hc ?_
  simp [Call.effects_cons hb, Call.perform, Call.doBegin, hget]

theorem Outlived.of_takes (h : f.Sound) (hk : f.Served i k) (ht : f.Takes j l)
    (hg : k.generation < l.generation) (turns : List Turn) : f.Outlived i k (.work :: turns) := by
  have hsound := h.step .work
  have hserved := h.served hk .work
  obtain ⟨-, hgen⟩ := ht.token
  have hnew : k.generation < (f.step .work).controller.token.generation := by omega
  obtain ⟨sequences, nodes, hdeeds⟩ := ht.deeds
  have hij : j ≠ i := ht.ne_of_served h hk
  have others (e : Effect) : (i, e) ∉ f.deeds .work := by
    rw [hdeeds]
    simp [Ne.symm hij]
  have silent (part : List Turn) {e : Effect} (he : (i, e) ∈ f.story (.work :: part)) :
      e.marks = [] ∧ e ≠ .began := by
    rcases List.mem_append.1 he with he | he
    · exact absurd he (others e)
    · exact silent_run hsound hserved hnew part he
  have log (part : List Turn) (hp : part <+: .work :: turns) : (f.run part).controller.log =
      (((f.story part).filter (·.1 != i)).map Prod.snd).foldl EventLog.write f.controller.log := by
    rw [log_run]
    refine foldl_write_filter (fun e he => ?_) _
    cases part with
    | nil => cases he
    | cons turn part =>
      obtain ⟨rfl, -⟩ := List.cons_prefix_cons.1 hp
      exact silent part he
  refine ⟨fun e he => (silent turns he).1, log, fun part hp hne event hevent => ?_, ?_⟩
  · obtain ⟨turn, part, rfl⟩ := List.exists_cons_of_ne_nil hne
    obtain ⟨rfl, -⟩ := List.cons_prefix_cons.1 hp
    -- the newer run clears the log before anything else is written
    have hbegan : (((f.story (.work :: part)).filter (·.1 != i)).map Prod.snd).head? = some .began := by
      simp [story, hdeeds, hij]
    rw [log _ hp] at hevent
    obtain ⟨n, e, hmem, hwrote⟩ := mem_story_of_cleared hbegan hevent
    obtain ⟨hmem, hn⟩ := List.mem_filter.1 hmem
    exact ⟨n, e, hmem, by simpa using hn, hwrote⟩
  · intro part turn rest he hheld hgone
    cases part with
    | nil =>
      obtain ⟨rfl, -⟩ : Turn.work = turn ∧ turns = rest := by simpa using he
      -- at its first turn only the newer run moves
      obtain ⟨caller, hc, hticket⟩ := holds_iff.1 hheld
      obtain ⟨caller', p, rest, hc', hb⟩ := ht.asks
      refine absurd (holds_iff.2 ⟨caller, ?_, hticket⟩) hgone
      rw [run_nil, step_work ht.holder hc', put_there hij]
      exact hc
    | cons first part =>
      obtain ⟨rfl, -⟩ : Turn.work = first ∧ turns = part ++ turn :: rest := by simpa using he
      refine (sound_run hsound part).token_of_back ?_ hheld hgone
      exact Nat.lt_of_lt_of_le hnew (later_run hsound part).generation

/-- The turns at which two runs take their tickets are in the order of the tickets. -/
theorem takes_before (h : f.Sound) {turns before₁ before₂ after₁ after₂ : List Turn}
    (e₁ : turns = before₁ ++ .work :: after₁) (h₁ : (f.run before₁).Takes i k)
    (e₂ : turns = before₂ ++ .work :: after₂) (h₂ : (f.run before₂).Takes j l)
    (hg : k.generation < l.generation) : before₁ ++ [.work] <+: before₂ := by
  have p₁ : before₁ ++ [.work] <+: turns := ⟨after₁, by simp [e₁]⟩
  have p₂ : before₂ ++ [.work] <+: turns := ⟨after₂, by simp [e₂]⟩
  obtain ⟨hk, -⟩ := h₁.token
  obtain ⟨hl, hl'⟩ := h₂.token
  have hlt : before₁.length < before₂.length := by
    by_contra hge
    rcases Nat.lt_or_eq_of_le (Nat.le_of_not_lt hge) with hlt | heq
    · -- the newer ticket would have been out when the older one was taken
      have hp : before₂ ++ [.work] <+: before₁ :=
        List.prefix_of_prefix_length_le p₂ ((List.prefix_append _ _).trans p₁)
          (by simpa using Nat.succ_le_of_lt hlt)
      obtain ⟨more, rfl⟩ := hp
      have hlater := later_run (sound_run h (before₂ ++ [.work])) more
      rw [← run_append] at hlater
      rw [run_append, run_cons, run_nil] at hlater
      have := hlater.generation
      simp only [run_append, run_cons, run_nil] at this hk
      omega
    · obtain rfl : before₁ = before₂ := (List.append_inj (e₁.symm.trans e₂) heq.symm).1
      omega
  exact List.prefix_of_prefix_length_le p₁ ((List.prefix_append _ _).trans p₂)
    (by simpa using Nat.succ_le_of_lt hlt)

/-- **Succession.** Take any calls of a controller and let them take turns in any order, with fewer
than `2 ^ 64` runs (`Floor.tickets_fit`). If a run holds a ticket at one time and another run holds a
ticket with a greater number at another time, then the other run begins at one of the turns, with a log
that it clears, and from that turn on the older run does nothing that can be seen, wherever it sleeps:
all that it emitted and dispatched came before, every event that is then in the log was emitted by
another call, and its end or its drop leaves the token alone. The tickets number the runs in the order
in which they begin. -/
theorem runs_never_interleave (channel : Channel) (log : EventLog) (pacing : Duration)
    (turns early late : List Turn) (i j : Nat) (a b : Ticket)
    (he : early <+: turns) (hl : late <+: turns)
    (ha : ((Floor.new (.new channel log pacing)).run early).Holds i a)
    (hb : ((Floor.new (.new channel log pacing)).run late).Holds j b)
    (hab : a.generation < b.generation) :
    ∃ before after, turns = before ++ .work :: after ∧
      let f := (Floor.new (.new channel log pacing)).run before
      f.Takes j b ∧ b.generation = (Floor.new (.new channel log pacing)).begins before + 1 ∧
      (∃ sequences nodes, f.deeds .work =
        [(j, .began), (j, .emitted ⟨.success, "Starting..."⟩), (j, .planned sequences nodes)]) ∧
      f.Outlived i a (.work :: after) := by
  have hsound : (Floor.new (.new channel log pacing)).Sound := sound_new channel log pacing
  obtain ⟨before₁, after₁, e₁, h₁⟩ := took hsound rfl early ha
  obtain ⟨before₂, after₂, e₂, h₂⟩ := took hsound rfl late hb
  obtain ⟨rest₁, rfl⟩ := he
  obtain ⟨rest₂, e₃⟩ := hl
  subst e₁ e₂
  have e₁ : before₁ ++ .work :: after₁ ++ rest₁ = before₁ ++ .work :: (after₁ ++ rest₁) := by simp
  have e₂ : before₁ ++ .work :: after₁ ++ rest₁ = before₂ ++ .work :: (after₂ ++ rest₂) := by
    simpa using e₃.symm
  obtain ⟨more, rfl⟩ := takes_before hsound e₁ h₁ e₂ h₂ hab
  have hnumber : b.generation =
      (Floor.new (.new channel log pacing)).begins (before₁ ++ [.work] ++ more) + 1 := by
    rw [h₂.token.1, generation_run]
    exact congrArg (· + 1) (Nat.zero_add _)
  refine ⟨_, _, e₂, h₂, hnumber, h₂.deeds, ?_⟩
  have hserved : ((Floor.new (.new channel log pacing)).run (before₁ ++ [.work])).Served i a := by
    rw [run_append, run_cons, run_nil]
    exact ((sound_run hsound before₁).step .work).served_of_holds h₁.holds
  have hserved := served_run (sound_run hsound _) hserved more
  rw [← run_append] at hserved
  exact Outlived.of_takes (sound_run hsound _) hserved h₂ hab _

/-- A run begins while an older one sleeps behind a command in a loop, and ends after it. -/
theorem runs_never_interleave_in_settle :
    let f := Floor.new (.new (.recorder (.new 5)) (.new 8) 3)
    let loop := Chain.repeatFixed 2 [.move .left]
    let late : List Turn := List.flatten
      [[.ask (.run (.ofChains [loop]))], List.replicate 8 .work, [.yield, .ask .emergencyStop],
        List.replicate 2 .work, [.yield, .ask (.run (.ofChains [.move .right])), .work]]
    let rest : List Turn := List.flatten
      [List.replicate 4 .work, [.yield, .wake 0], List.replicate 9 .work, [.yield, .wake 2]]
    (f.run late).Holds 0 ⟨1⟩ ∧ ¬ (f.run (late ++ rest)).Holds 0 ⟨1⟩ ∧
      ∃ before after, late ++ rest = before ++ .work :: after ∧
        (f.run before).Takes 2 ⟨2⟩ ∧ (f.run before).Outlived 0 ⟨1⟩ (.work :: after) := by
  intro f loop late rest
  have ha : (f.run late).Holds 0 ⟨1⟩ := by
    show _ = _
    decide +kernel
  have hb : (f.run late).Holds 2 ⟨2⟩ := by
    show _ = _
    decide +kernel
  refine ⟨ha, ?_, ?_⟩
  · show ¬ _ = _
    decide +kernel
  · obtain ⟨before, after, he, ht, -, -, ho⟩ := runs_never_interleave (.recorder (.new 5)) (.new 8) 3
      (late ++ rest) late late 0 2 ⟨1⟩ ⟨2⟩ (List.prefix_append ..) (List.prefix_append ..) ha hb
      (by decide)
    exact ⟨before, after, he, ht, ho⟩

end Floor

end BlockPilot
