import BlockPilot.Proofs.Ownership
import Mathlib.Data.List.Nodup

/-!
# What happens at the desk over time

Two things are said about any acts at the desk. A ticket that has to stop has to stop ever after,
and no signal is taken back while no run begins (`Desk.stop_is_permanent`). And the token announces
its changes between running and idle in strict turns, so that every run is announced once when it
begins and once when it has ended (`Desk.announced_in_turns`).

What one act does to the token is said once (`Desk.step_cases`).
-/

namespace BlockPilot

namespace Desk

/-! ## What an act does -/

/-- Whether an act begins a run. -/
def begins (d : Desk) : Act → Bool
  | .begin => d.token.begin?.isSome
  | _ => false

/-- How many runs some acts begin. -/
def begun (d : Desk) : List Act → Nat
  | [] => 0
  | act :: acts => (d.begins act).toNat + (d.step act).begun acts

/-- What an act does to the token: it leaves it running or idle as it was, it begins a run, or it
frees the token. -/
inductive Acted (d : Desk) (act : Act) (e : Desk) : Prop
  | still (begins : d.begins act = false) (running : e.token.running = d.token.running)
    (generation : e.token.generation = d.token.generation)
    (transitions : e.token.transitions = d.token.transitions)
    (live : ∀ k ∈ e.live, k ∈ d.live)
  | began (begins : d.begins act = true) (idle : d.token.running = false)
    (running : e.token.running = true) (generation : e.token.generation = d.token.generation + 1)
    (transitions : e.token.transitions = .running :: d.token.transitions)
    (live : e.live = ⟨d.token.generation + 1⟩ :: d.live)
  | freed (begins : d.begins act = false) (running : d.token.running = true)
    (idle : e.token.running = false) (generation : e.token.generation = d.token.generation)
    (transitions : e.token.transitions = .idle :: d.token.transitions)
    (live : ∀ k ∈ e.live, k ∈ d.live)

/-- Freeing the token is an act that frees it if it is running. -/
theorem Acted.of_free {d e : Desk} {act : Act} {t : Token} (hb : d.begins act = false)
    (ht : e.token = t.free.2) (hr : t.running = d.token.running)
    (hg : t.generation = d.token.generation) (hs : t.transitions = d.token.transitions)
    (hl : ∀ k ∈ e.live, k ∈ d.live) : Acted d act e := by
  cases hd : d.token.running with
  | true =>
    refine .freed hb hd (by simp [ht]) (by simp [ht, hg]) ?_ hl
    rw [ht, Token.free, hr, hd, if_pos rfl, hs]
  | false =>
    refine .still hb (by simp [ht, hd]) (by simp [ht, hg]) ?_ hl
    rw [ht, Token.free, hr, hd, if_neg (by simp), hs]

theorem Acted.giveBack {d : Desk} {act : Act} (hb : d.begins act = false) (place : Nat) :
    Acted d act (d.giveBack place) := by
  unfold Desk.giveBack
  split
  · rename_i k hk
    have hl : ∀ l ∈ d.live.eraseIdx place, l ∈ d.live := fun l hl => List.mem_of_mem_eraseIdx hl
    unfold Token.release
    split
    · exact .still hb rfl rfl rfl hl
    · exact .of_free hb rfl rfl rfl rfl hl
  · exact .still hb rfl rfl rfl fun _ h => h

theorem step_cases (d : Desk) (act : Act) : Acted d act (d.step act) := by
  cases act with
  | begin =>
    cases hb : d.token.begin? with
    | none =>
      have hs : d.step .begin = d := by simp [step, hb]
      rw [hs]
      exact .still (by simp [begins, hb]) rfl rfl rfl fun _ h => h
    | some r =>
      obtain ⟨k, t⟩ := r
      have hs : d.step .begin = ⟨t, k :: d.live⟩ := by simp [step, hb]
      obtain ⟨hi, hk, hg, hr, -⟩ := Token.begin?_eq_some hb
      have ht : t.transitions = .running :: d.token.transitions := by
        unfold Token.begin? at hb
        rw [hi, if_neg (by simp)] at hb
        cases hb
        rfl
      obtain rfl : k = ⟨d.token.generation + 1⟩ := by
        cases k
        simpa using hk
      rw [hs]
      exact .began (by simp [begins, hb]) hi hr hg ht rfl
  | requestStop => exact .still rfl rfl rfl rfl fun _ h => h
  | requestEmergencyStop => exact .of_free rfl rfl rfl rfl rfl fun _ h => h
  | finish place => exact .giveBack rfl place
  | drop place => exact .giveBack rfl place

@[simp] theorem run_nil (d : Desk) : d.run [] = d := rfl

@[simp] theorem run_cons (d : Desk) (act : Act) (acts : List Act) :
    d.run (act :: acts) = (d.step act).run acts := rfl

theorem run_append (d : Desk) (a b : List Act) : d.run (a ++ b) = (d.run a).run b := by
  simp [run]

/-- The number of the newest run counts the runs that have begun. -/
theorem generation_run (d : Desk) (acts : List Act) :
    (d.run acts).token.generation = d.token.generation + d.begun acts := by
  induction acts generalizing d with
  | nil => rfl
  | cons act acts ih =>
    rw [run_cons, ih, begun]
    cases step_cases d act with
    | still hb _ hg => rw [hb, hg, Bool.toNat_false, Nat.zero_add]
    | began hb _ _ hg => rw [hb, hg, Bool.toNat_true, Nat.add_assoc]
    | freed hb _ _ hg => rw [hb, hg, Bool.toNat_false, Nat.zero_add]

/-- As long as fewer than `2 ^ 64` runs begin, a counter of 64 bits numbers the tickets that are out. -/
theorem tickets_fit (acts : List Act) (few : Desk.new.begun acts < UInt64.size) :
    let d := Desk.new.run acts
    ∀ k ∈ d.live, k.generation < UInt64.size ∧
      d.token.supersedes k = (UInt64.ofNat d.token.generation != UInt64.ofNat k.generation) := by
  refine (run_owned Token.Owned.new acts).fit ?_
  rw [generation_run]
  exact (Nat.zero_add _).symm ▸ few

/-! ## Signals stay -/

theorem later_step (d : Desk) (act : Act) : Token.Later d.token (d.step act).token := by
  have back (place : Nat) : Token.Later d.token (d.giveBack place).token := by
    unfold giveBack
    split
    · exact Token.Later.release d.token _
    · exact Token.Later.refl d.token
  cases act with
  | begin =>
    simp only [step]
    split
    · rename_i hb
      exact Token.Later.of_begin hb
    · exact Token.Later.refl d.token
  | requestStop => exact Token.Later.requestStop d.token
  | requestEmergencyStop => exact Token.Later.requestEmergencyStop d.token
  | finish place => exact back place
  | drop place => exact back place

theorem later_run (d : Desk) (acts : List Act) : Token.Later d.token (d.run acts).token := by
  induction acts generalizing d with
  | nil => exact Token.Later.refl d.token
  | cons act acts ih => exact (later_step d act).trans (ih (d.step act))

/-- **Permanence.** Whatever is done at the desk, with fewer than `2 ^ 64` runs (`tickets_fit`), a
ticket that has to stop at one time has to stop at every later time; and while no run begins, the
signal only becomes more urgent. -/
theorem stop_is_permanent (acts more : List Act) :
    let d := Desk.new.run acts
    let e := d.run more
    (∀ k ∈ d.live, d.token.stops k = true → e.token.stops k = true) ∧
    (d.begun more = 0 → d.token.signal.urgency ≤ e.token.signal.urgency) := by
  intro d e
  have hlater : Token.Later d.token e.token := later_run d more
  refine ⟨fun k hk hs => ?_, fun hn => ?_⟩
  · have howned : d.token.Owned d.live := run_owned Token.Owned.new acts
    exact hlater.stops (howned.known k hk) hs
  · refine hlater.signal ?_
    rw [generation_run, hn, Nat.add_zero]

/-- The first of two runs has been superseded. It has to stop behind a third one too, whose beginning
takes the signal back. -/
theorem stop_is_permanent_behind_third :
    let d := Desk.new.run [.begin, .requestEmergencyStop, .begin]
    let e := d.run [.requestStop, .finish 0, .begin]
    d.live = [⟨2⟩, ⟨1⟩] ∧ d.token.stops ⟨1⟩ = true ∧ e.live = [⟨3⟩, ⟨1⟩] ∧ e.token.signal = .none ∧
      e.token.stops ⟨1⟩ = true := by
  intro d e
  have hlive : d.live = [⟨2⟩, ⟨1⟩] := by decide
  have hstops : d.token.stops ⟨1⟩ = true := by decide
  obtain ⟨hever, -⟩ := stop_is_permanent [.begin, .requestEmergencyStop, .begin]
    [.requestStop, .finish 0, .begin]
  exact ⟨hlive, hstops, by decide, by decide, hever ⟨1⟩ (by rw [hlive]; simp) hstops⟩

/-! ## Announcements -/

/-- A change between running and idle, with the number of the newest run. -/
structure Announcement where
  generation : Nat
  state : RunState
  deriving DecidableEq

/-- What the token announces when runs begin and end in turns: every run first begins and then
ends. -/
def Announcement.nth (n : Nat) : Announcement :=
  ⟨n / 2 + 1, if n % 2 = 0 then .running else .idle⟩

theorem Announcement.nth_injective : Function.Injective Announcement.nth := by
  intro m n h
  simp only [nth, Announcement.mk.injEq] at h
  obtain ⟨hg, hs⟩ := h
  have hp : m % 2 = 0 ↔ n % 2 = 0 := by
    by_cases hm : m % 2 = 0 <;> by_cases hn : n % 2 = 0 <;> simp_all
  omega

/-- What an act announces, oldest first. -/
def announces (d : Desk) (act : Act) : List Announcement :=
  let t := (d.step act).token
  (t.transitions.take (t.transitions.length - d.token.transitions.length)).reverse.map
    (⟨t.generation, ·⟩)

/-- What some acts announce, oldest first. -/
def announced (d : Desk) : List Act → List Announcement
  | [] => []
  | act :: acts => d.announces act ++ (d.step act).announced acts

theorem announces_of_same {d : Desk} {act : Act}
    (h : (d.step act).token.transitions = d.token.transitions) : d.announces act = [] := by
  simp [announces, h]

theorem announces_of_cons {d : Desk} {act : Act} {state : RunState}
    (h : (d.step act).token.transitions = state :: d.token.transitions) :
    d.announces act = [⟨(d.step act).token.generation, state⟩] := by
  simp [announces, h]

/-- What has been announced so far. -/
structure Told (d : Desk) (sent : List Announcement) : Prop where
  inTurns : sent = (List.range sent.length).map Announcement.nth
  length : sent.length + d.token.running.toNat = 2 * d.token.generation
  shown : sent.map Announcement.state = d.token.transitions.reverse
  last : d.token.running = true ↔ d.token.transitions.head? = some .running
  numbered : ∀ k ∈ d.live, 0 < k.generation

namespace Told

variable {d : Desk} {sent : List Announcement}

theorem new : Told .new [] := ⟨rfl, rfl, rfl, by simp [Desk.new, Token.new], by simp [Desk.new]⟩

theorem concat_nth (h : sent = (List.range sent.length).map Announcement.nth) :
    sent ++ [.nth sent.length] =
      (List.range (sent ++ [Announcement.nth sent.length]).length).map Announcement.nth := by
  rw [List.length_append, List.length_singleton, List.range_succ, List.map_append, ← h]
  rfl

theorem step (h : Told d sent) (act : Act) : Told (d.step act) (sent ++ d.announces act) := by
  cases step_cases d act with
  | still _ running generation transitions live =>
    rw [announces_of_same transitions, List.append_nil]
    refine ⟨h.inTurns, ?_, ?_, ?_, fun k hk => h.numbered k (live k hk)⟩
    · rw [running, generation]
      exact h.length
    · rw [transitions]
      exact h.shown
    · rw [running, transitions]
      exact h.last
  | began _ idle running generation transitions live =>
    have hlength := h.length
    rw [idle, Bool.toNat_false] at hlength
    have hnth : (⟨d.token.generation + 1, .running⟩ : Announcement) = .nth sent.length := by
      rw [Announcement.nth, if_pos (by omega)]
      congr 1
      omega
    rw [announces_of_cons transitions, generation, hnth]
    refine ⟨concat_nth h.inTurns, ?_, ?_, by simp [running, transitions], ?_⟩
    · rw [running, generation, List.length_append, List.length_singleton, Bool.toNat_true]
      omega
    · rw [transitions, List.map_append, h.shown, List.reverse_cons, ← hnth]
      rfl
    · rw [live]
      intro k hk
      rcases List.mem_cons.1 hk with rfl | hk
      · exact Nat.succ_pos _
      · exact h.numbered k hk
  | freed _ running idle generation transitions live =>
    have hlength := h.length
    rw [running, Bool.toNat_true] at hlength
    have hnth : (⟨d.token.generation, .idle⟩ : Announcement) = .nth sent.length := by
      rw [Announcement.nth, if_neg (by omega)]
      congr 1
      omega
    rw [announces_of_cons transitions, generation, hnth]
    refine ⟨concat_nth h.inTurns, ?_, ?_, by simp [idle, transitions],
      fun k hk => h.numbered k (live k hk)⟩
    · rw [idle, generation, List.length_append, List.length_singleton, Bool.toNat_false]
      omega
    · rw [transitions, List.map_append, h.shown, List.reverse_cons, ← hnth]
      rfl

theorem run (h : Told d sent) (acts : List Act) : Told (d.run acts) (sent ++ d.announced acts) := by
  induction acts generalizing d sent with
  | nil => simpa [announced] using h
  | cons act acts ih =>
    rw [run_cons, announced, ← List.append_assoc]
    exact ih (h.step act)

/-- What has been announced is announced once. -/
theorem nodup (h : Told d sent) : sent.Nodup := by
  rw [h.inTurns]
  exact List.nodup_range.map Announcement.nth_injective

/-- The end of a run is announced as soon as its ticket is back: no other ticket has its number. -/
theorem ended (h : Told d sent) (ho : d.token.Owned d.live) {k : Ticket} (hpos : 0 < k.generation)
    (hle : k.generation ≤ d.token.generation) (hk : k ∉ d.live) :
    sent.count ⟨k.generation, .idle⟩ = 1 := by
  have hlength := h.length
  have hsent : 2 * k.generation ≤ sent.length := by
    cases hr : d.token.running with
    | false =>
      rw [hr, Bool.toNat_false] at hlength
      omega
    | true =>
      rw [hr, Bool.toNat_true] at hlength
      obtain ⟨l, hl, hg⟩ := ho.running hr
      have hne : k.generation ≠ l.generation := by
        intro he
        obtain rfl : k = l := by
          cases k
          cases l
          exact congrArg Ticket.mk he
        exact hk hl
      omega
  have hmem : (⟨k.generation, .idle⟩ : Announcement) ∈ sent := by
    rw [h.inTurns]
    refine List.mem_map.2 ⟨2 * k.generation - 1, List.mem_range.2 (by omega), ?_⟩
    rw [Announcement.nth, if_neg (by omega)]
    congr 1
    omega
  exact List.count_eq_one_of_mem h.nodup hmem

end Told

theorem count_running_run (d : Desk) (acts : List Act) :
    (d.run acts).token.transitions.count .running =
      d.token.transitions.count .running + d.begun acts := by
  induction acts generalizing d with
  | nil => rfl
  | cons act acts ih =>
    rw [run_cons, ih, begun]
    cases step_cases d act with
    | still hb _ _ ht => rw [hb, ht, Bool.toNat_false, Nat.zero_add]
    | began hb _ _ _ ht => rw [hb, ht, List.count_cons_self, Bool.toNat_true, Nat.add_assoc]
    | freed hb _ _ _ ht =>
      rw [hb, ht, List.count_cons_of_ne (by decide), Bool.toNat_false, Nat.zero_add]

/-- Giving a ticket back answers whether that ended its run. -/
theorem announces_finish {d : Desk} {place : Nat} {k : Ticket} (hk : d.live[place]? = some k) :
    d.announces (.finish place) =
      if (d.token.release k).1 then [⟨k.generation, .idle⟩] else [] := by
  have hstep : (d.step (.finish place)).token = (d.token.release k).2 := by
    simp [step, giveBack, hk]
  cases hs : d.token.supersedes k with
  | true =>
    have hr : d.token.release k = (false, d.token) := by simp [Token.release, hs]
    rw [hr, announces_of_same (by rw [hstep, hr])]
    rfl
  | false =>
    cases hd : d.token.running with
    | false =>
      have hr : d.token.release k = (false, d.token) := by simp [Token.release, Token.free, hs, hd]
      rw [hr, announces_of_same (by rw [hstep, hr])]
      rfl
    | true =>
      have hr : d.token.release k = (true, { d.token with
          running := false, transitions := .idle :: d.token.transitions }) := by
        simp [Token.release, Token.free, hs, hd]
      have ht : (d.step (.finish place)).token.transitions = .idle :: d.token.transitions := by
        rw [hstep, hr]
      rw [announces_of_cons ht, hstep, hr, ← Token.supersedes_eq_false.1 hs]
      rfl

/-- **Announcements.** Whatever is done at the desk, with fewer than `2 ^ 64` runs (`tickets_fit`), the
changes that the token announces are those of the first run, of the second run and so on, each first
running and then idle. So the token is running exactly if it has announced that last; it has announced
running once for every run that has begun, and another one begins exactly if the token is idle; when a
ticket is back, the end of its run has been announced once; and giving a ticket back answers whether it
was that which announced the end. -/
theorem announced_in_turns (acts : List Act) :
    let d := Desk.new.run acts
    let sent := Desk.new.announced acts
    sent.map Announcement.state = d.token.transitions.reverse ∧
    (∀ n (h : n < sent.length),
      sent[n] = ⟨n / 2 + 1, if n % 2 = 0 then .running else .idle⟩) ∧
    (d.token.state = .running ↔ d.token.transitions.head? = some .running) ∧
    d.token.transitions.count .running = Desk.new.begun acts ∧
    (d.begins .begin = true ↔ d.token.state = .idle) ∧
    (∀ earlier later k, acts = earlier ++ later → k ∈ (Desk.new.run earlier).live → k ∉ d.live →
      sent.count ⟨k.generation, .idle⟩ = 1) ∧
    ∀ place k, d.live[place]? = some k →
      d.announces (.finish place) =
        if (d.token.release k).1 then [⟨k.generation, .idle⟩] else [] := by
  intro d sent
  have htold : Told d sent := Told.new.run acts
  have howned : d.token.Owned d.live := run_owned Token.Owned.new acts
  refine ⟨htold.shown, fun n hn => ?_, ?_, ?_, Token.begin?_isSome, ?_,
    fun place k hk => announces_finish hk⟩
  · have hget := congrArg (·[n]?) htold.inTurns
    simpa [hn, Announcement.nth] using hget
  · exact Token.state_eq_running.trans htold.last
  · exact (count_running_run .new acts).trans (Nat.zero_add _)
  · rintro earlier later k rfl hk hnot
    have hearly : (Desk.new.run earlier).token.Owned (Desk.new.run earlier).live :=
      run_owned Token.Owned.new earlier
    have hlater : Token.Later (Desk.new.run earlier).token d.token := by
      have := later_run (Desk.new.run earlier) later
      rwa [← run_append] at this
    have hpos := (Told.new.run earlier).numbered k hk
    exact htold.ended howned hpos (Nat.le_trans (hearly.known k hk) hlater.generation) hnot

/-- Two emergency stops announce the ends of two runs. The ticket of the first one comes back during the
third, and announces nothing. -/
theorem announced_in_turns_of_three :
    let acts : List Act := [.begin, .requestEmergencyStop, .requestEmergencyStop, .begin,
      .requestEmergencyStop, .begin, .finish 2]
    let d := Desk.new.run acts
    d.live = [⟨3⟩, ⟨2⟩] ∧ Desk.new.announced acts = [⟨1, .running⟩, ⟨1, .idle⟩, ⟨2, .running⟩,
      ⟨2, .idle⟩, ⟨3, .running⟩] ∧ (Desk.new.announced acts).count ⟨1, .idle⟩ = 1 ∧
      d.announces (.finish 0) = [⟨3, .idle⟩] ∧ d.announces (.finish 1) = [] := by
  intro acts d
  obtain ⟨-, -, -, -, -, hended, hanswers⟩ := announced_in_turns acts
  refine ⟨by decide, by decide, ?_, ?_, ?_⟩
  · exact hended (acts.take 6) [.finish 2] ⟨1⟩ rfl (by decide) (by decide)
  · exact (hanswers 0 ⟨3⟩ (by decide)).trans (by decide)
  · exact (hanswers 1 ⟨2⟩ (by decide)).trans (by decide)

end Desk

end BlockPilot
