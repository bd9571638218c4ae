import BlockPilot.Run.Token
import Mathlib.Data.List.Nodup
import Mathlib.Data.List.Perm.Basic

/-!
# Who owns the run token

The token does not say which tickets are still out. `Token.Owned` ties the tickets that have not
been given back to the three fields of the token, and every change of the token keeps it. From it
follows who may go on (`Owned.of_going`): one ticket at most, the newest, and only while the token
is running. `Token.Later` says how a token can have changed meanwhile; a ticket that has to stop
has to stop at every later time (`Later.stops`).

Generations count the runs that have begun. They are natural numbers here, so no count of them
wraps around. A counter of 64 bits, which is increased by one for each run, tells the same tickets
apart as long as fewer than `2 ^ 64` runs begin (`Owned.fit`).
-/

namespace BlockPilot

@[simp] theorem StopSignal.urgency_max (a b : StopSignal) :
    (a.max b).urgency = Nat.max a.urgency b.urgency := by
  cases a <;> cases b <;> rfl

theorem StopSignal.urgency_le_max (a b : StopSignal) : a.urgency ≤ (a.max b).urgency := by
  rw [urgency_max]
  exact Nat.le_max_left _ _

theorem StopSignal.urgency_eq_zero {s : StopSignal} : s.urgency = 0 ↔ s = .none := by
  cases s <;> simp [StopSignal.urgency]

namespace Token

/-! ## What is asked of a token -/

theorem supersedes_eq_false {t : Token} {k : Ticket} :
    t.supersedes k = false ↔ t.generation = k.generation := by
  simp [supersedes]

theorem stops_eq_false {t : Token} {k : Ticket} :
    t.stops k = false ↔ t.generation = k.generation ∧ t.signal = .none := by
  simp [stops, supersedes, isStopping]

theorem stops_eq_true {t : Token} {k : Ticket} :
    t.stops k = true ↔ t.generation ≠ k.generation ∨ t.signal ≠ .none := by
  simp [stops, supersedes, isStopping]

theorem state_eq_running {t : Token} : t.state = .running ↔ t.running = true := by
  unfold state; split <;> simp_all

theorem state_eq_idle {t : Token} : t.state = .idle ↔ t.running = false := by
  unfold state; split <;> simp_all

/-! ## What a change does to the fields -/

/-- A run begins only when none goes on, and takes the next number. -/
theorem begin?_eq_some {t t' : Token} {k : Ticket} (h : t.begin? = some (k, t')) :
    t.running = false ∧ k.generation = t.generation + 1 ∧ t'.generation = t.generation + 1 ∧
      t'.running = true ∧ t'.signal = .none := by
  unfold begin? at h
  split at h
  · cases h
  · rename_i hr
    simp only [Option.some.injEq, Prod.mk.injEq] at h
    obtain ⟨rfl, rfl⟩ := h
    exact ⟨by simpa using hr, rfl, rfl, rfl, rfl⟩

theorem begin?_eq_none {t : Token} : t.begin? = none ↔ t.running = true := by
  unfold begin?; split <;> simp_all

/-- A run can begin at any time at which the token is idle. -/
theorem begin?_isSome {t : Token} : t.begin?.isSome = true ↔ t.state = .idle := by
  rw [state_eq_idle, ← Bool.not_eq_true, ← begin?_eq_none, Option.isSome_iff_ne_none]

@[simp] theorem free_generation (t : Token) : t.free.2.generation = t.generation := by
  unfold free; split <;> rfl

@[simp] theorem free_signal (t : Token) : t.free.2.signal = t.signal := by
  unfold free; split <;> rfl

@[simp] theorem free_running (t : Token) : t.free.2.running = false := by
  unfold free; split <;> simp_all

@[simp] theorem release_generation (t : Token) (k : Ticket) :
    (t.release k).2.generation = t.generation := by
  unfold release; split <;> simp

@[simp] theorem release_signal (t : Token) (k : Ticket) : (t.release k).2.signal = t.signal := by
  unfold release; split <;> simp

/-! ## The invariant -/

/-- How the tickets that have not been given back belong to a token. -/
structure Owned (t : Token) (live : List Ticket) : Prop where
  distinct : (live.map Ticket.generation).Nodup
  known : ∀ k ∈ live, k.generation ≤ t.generation
  running : t.running = true → ∃ k ∈ live, t.generation = k.generation
  idle : t.running = false → ∀ k ∈ live, t.generation = k.generation → t.signal = .emergency

namespace Owned

variable {t t' : Token} {live live' : List Ticket} {k : Ticket}

theorem new : Owned .new [] := ⟨by simp, by simp, by simp [Token.new], by simp⟩

theorem perm (h : t.Owned live) (hp : live.Perm live') : t.Owned live' where
  distinct := (hp.map _).nodup_iff.1 h.distinct
  known k hk := h.known k (hp.mem_iff.2 hk)
  running hr := by
    obtain ⟨k, hk, hg⟩ := h.running hr
    exact ⟨k, hp.mem_iff.1 hk, hg⟩
  idle hi k hk := h.idle hi k (hp.mem_iff.2 hk)

/-- The new ticket is newer than all that are out. -/
theorem begin (h : t.Owned live) (hb : t.begin? = some (k, t')) : t'.Owned (k :: live) := by
  obtain ⟨_, hk, hg, hr, _⟩ := begin?_eq_some hb
  refine ⟨?_, ?_, fun _ => ⟨k, by simp, by omega⟩, fun hi => by simp [hr] at hi⟩
  · simp only [List.map_cons, List.nodup_cons, List.mem_map, not_exists, not_and]
    refine ⟨fun l hl e => ?_, h.distinct⟩
    have := h.known l hl
    omega
  · intro l hl
    rcases List.mem_cons.1 hl with rfl | hl
    · omega
    · have := h.known l hl
      omega

theorem requestStop (h : t.Owned live) : t.requestStop.Owned live where
  distinct := h.distinct
  known := h.known
  running := h.running
  idle hi k hk hg := by
    have : t.signal = .emergency := h.idle hi k hk hg
    simp [Token.requestStop, this, StopSignal.max, StopSignal.urgency]

theorem requestEmergencyStop (h : t.Owned live) : t.requestEmergencyStop.Owned live where
  distinct := h.distinct
  known k hk := by simpa [Token.requestEmergencyStop] using h.known k hk
  running hr := by simp [Token.requestEmergencyStop] at hr
  idle _ _ _ _ := by
    cases hs : t.signal <;>
      simp [Token.requestEmergencyStop, hs, StopSignal.max, StopSignal.urgency]

/-- Giving a ticket back frees the token only where no other ticket out is as new. -/
theorem release (h : t.Owned (k :: live)) : (t.release k).2.Owned live := by
  have hd := h.distinct
  simp only [List.map_cons, List.nodup_cons, List.mem_map, not_exists, not_and] at hd
  refine ⟨hd.2, fun l hl => by simpa using h.known l (by simp [hl]), ?_, ?_⟩
  · intro hr
    cases hs : t.supersedes k with
    | false => simp [Token.release, hs] at hr
    | true =>
      simp only [Token.release, hs, if_true] at hr ⊢
      obtain ⟨l, hl, hg⟩ := h.running hr
      rcases List.mem_cons.1 hl with rfl | hl
      · simp [Token.supersedes, hg] at hs
      · exact ⟨l, hl, hg⟩
  · intro hi l hl hg
    simp only [release_generation, release_signal] at hg ⊢
    cases hs : t.supersedes k with
    | false =>
      -- the ticket given back is the newest, so none that stays out is
      rw [supersedes_eq_false] at hs
      exact absurd (hg.symm.trans hs) (hd.1 l hl)
    | true =>
      simp only [Token.release, hs, if_true] at hi
      exact h.idle hi l (by simp [hl]) hg

/-- Who may go on owns the running token. -/
theorem of_going (h : t.Owned live) (hk : k ∈ live) (hs : t.stops k = false) : t.running = true := by
  rw [stops_eq_false] at hs
  cases hr : t.running with
  | true => rfl
  | false =>
    have := h.idle hr k hk hs.1
    rw [hs.2] at this
    cases this

/-- Where fewer than `2 ^ 64` runs have begun, 64 bits of the numbers say what is superseded. -/
theorem fit (h : t.Owned live) (few : t.generation < UInt64.size) :
    ∀ k ∈ live, k.generation < UInt64.size ∧
      t.supersedes k = (UInt64.ofNat t.generation != UInt64.ofNat k.generation) := by
  intro k hk
  have hlt := Nat.lt_of_le_of_lt (h.known k hk) few
  have hsame : UInt64.ofNat t.generation = UInt64.ofNat k.generation ↔ t.generation = k.generation := by
    rw [← UInt64.toNat_inj, UInt64.toNat_ofNat_of_lt' few, UInt64.toNat_ofNat_of_lt' hlt]
  exact ⟨hlt, by rw [Bool.eq_iff_iff, supersedes, bne_iff_ne, bne_iff_ne, ne_eq, ne_eq, hsame]⟩

/-- No two tickets that are out have one number. -/
theorem eq_of_generation (h : t.Owned live) {l : Ticket} (hk : k ∈ live) (hl : l ∈ live)
    (hg : k.generation = l.generation) : k = l :=
  List.inj_on_of_nodup_map h.distinct hk hl hg

end Owned

/-! ## Later tokens -/

/-- How a token can have changed: runs may have begun, and while none has, no signal is taken
back. -/
structure Later (t t' : Token) : Prop where
  generation : t.generation ≤ t'.generation
  signal : t'.generation = t.generation → t.signal.urgency ≤ t'.signal.urgency

namespace Later

variable {t t' : Token} {k : Ticket}

theorem refl (t : Token) : Later t t := ⟨Nat.le_refl _, fun _ => Nat.le_refl _⟩

theorem trans {t'' : Token} (h : Later t t') (h' : Later t' t'') : Later t t'' where
  generation := Nat.le_trans h.generation h'.generation
  signal hg := by
    have hle := h.generation
    have hle' := h'.generation
    -- nothing has begun in between either
    exact Nat.le_trans (h.signal (by omega)) (h'.signal (by omega))

theorem of_begin (h : t.begin? = some (k, t')) : Later t t' := by
  obtain ⟨_, _, hg, _, _⟩ := begin?_eq_some h
  exact ⟨by omega, fun e => by omega⟩

theorem requestStop (t : Token) : Later t t.requestStop :=
  ⟨Nat.le_refl _, fun _ => StopSignal.urgency_le_max _ _⟩

theorem requestEmergencyStop (t : Token) : Later t t.requestEmergencyStop where
  generation := by simp [Token.requestEmergencyStop]
  signal _ := by
    rw [Token.requestEmergencyStop, free_signal]
    exact StopSignal.urgency_le_max _ _

theorem release (t : Token) (k : Ticket) : Later t (t.release k).2 := ⟨by simp, by simp⟩

/-- Who has to stop has to stop for ever: a newer run supersedes it before the signal goes. -/
theorem stops (h : Later t t') (hk : k.generation ≤ t.generation) (hs : t.stops k = true) :
    t'.stops k = true := by
  rw [stops_eq_true] at hs ⊢
  have hg := h.generation
  by_cases he : t'.generation = t.generation
  · rcases hs with hs | hs
    · exact Or.inl (by omega)
    · right
      have hu := h.signal he
      intro h0
      rw [h0] at hu
      exact hs (StopSignal.urgency_eq_zero.1 (Nat.le_zero.1 hu))
  · exact Or.inl (by omega)

end Later

end Token

/-! ## The desk -/

/-- The token with the tickets that have not been given back. -/
structure Desk where
  token : Token
  live : List Ticket

namespace Desk

/-- What can be done at the desk; a ticket is named by its place among those that are out. -/
inductive Act where
  | begin
  | requestStop
  | requestEmergencyStop
  | finish (place : Nat)
  | drop (place : Nat)

def new : Desk := ⟨.new, []⟩

/-- Takes back the ticket in a place, if there is one. -/
def giveBack (d : Desk) (place : Nat) : Desk :=
  match d.live[place]? with
  | some ticket => ⟨(d.token.release ticket).2, d.live.eraseIdx place⟩
  | none => d

def step (d : Desk) : Act → Desk
  | .begin => match d.token.begin? with
    | some (ticket, token) => ⟨token, ticket :: d.live⟩
    | none => d
  | .requestStop => { d with token := d.token.requestStop }
  | .requestEmergencyStop => { d with token := d.token.requestEmergencyStop }
  | .finish place => d.giveBack place
  | .drop place => d.giveBack place

def run (d : Desk) (acts : List Act) : Desk := acts.foldl step d

theorem giveBack_owned {d : Desk} (h : d.token.Owned d.live) (place : Nat) :
    (d.giveBack place).token.Owned (d.giveBack place).live := by
  unfold giveBack
  split
  · rename_i ticket hi
    obtain ⟨hlt, rfl⟩ := List.getElem?_eq_some_iff.1 hi
    exact (h.perm (List.getElem_cons_eraseIdx_perm hlt).symm).release
  · exact h

theorem step_owned {d : Desk} (h : d.token.Owned d.live) (act : Act) :
    (d.step act).token.Owned (d.step act).live := by
  cases act with
  | begin =>
    simp only [step]
    split
    · rename_i ticket token hb
      exact h.begin hb
    · exact h
  | requestStop => exact h.requestStop
  | requestEmergencyStop => exact h.requestEmergencyStop
  | finish place => exact giveBack_owned h place
  | drop place => exact giveBack_owned h place

theorem run_owned {d : Desk} (h : d.token.Owned d.live) (acts : List Act) :
    (d.run acts).token.Owned (d.run acts).live := by
  induction acts generalizing d with
  | nil => exact h
  | cons act acts ih => exact ih (step_owned h act)

/-- **Ownership.** Whatever was done at the desk, with fewer than `2 ^ 64` runs
(`Desk.tickets_fit`), the tickets that are out have different numbers, none above the token's; one
of them exactly is not superseded while the token is running; and where one is not superseded while
the token is idle, the emergency stop is the reason. So one ticket at most may go on: the newest,
while the token is running. And a run can begin exactly if the token is idle, whichever tickets are
out. -/
theorem one_ticket_goes_on (acts : List Act) :
    let d := Desk.new.run acts
    (d.live.map Ticket.generation).Nodup ∧
    (∀ k ∈ d.live, k.generation ≤ d.token.generation) ∧
    (d.token.state = .running → ∃! k, k ∈ d.live ∧ d.token.supersedes k = false) ∧
    (d.token.state = .idle → ∀ k ∈ d.live, d.token.supersedes k = false →
      d.token.signal = .emergency) ∧
    (∀ k ∈ d.live, d.token.stops k = false →
      d.token.state = .running ∧ (∀ l ∈ d.live, l.generation ≤ k.generation) ∧
        ∀ l ∈ d.live, d.token.stops l = false → l = k) ∧
    (d.token.begin?.isSome = true ↔ d.token.state = .idle) := by
  intro d
  have h : d.token.Owned d.live := run_owned Token.Owned.new acts
  refine ⟨h.distinct, h.known, ?_, ?_, ?_, Token.begin?_isSome⟩
  · intro hr
    obtain ⟨k, hk, hg⟩ := h.running (Token.state_eq_running.1 hr)
    refine ⟨k, ⟨hk, Token.supersedes_eq_false.2 hg⟩, ?_⟩
    rintro l ⟨hl, hs⟩
    exact h.eq_of_generation hl hk ((Token.supersedes_eq_false.1 hs).symm.trans hg)
  · intro hi k hk hs
    exact h.idle (Token.state_eq_idle.1 hi) k hk (Token.supersedes_eq_false.1 hs)
  · intro k hk hs
    have hg := (Token.stops_eq_false.1 hs).1
    refine ⟨Token.state_eq_running.2 (h.of_going hk hs), fun l hl => ?_, fun l hl hl' => ?_⟩
    · rw [← hg]
      exact h.known l hl
    · exact h.eq_of_generation hl hk ((Token.stops_eq_false.1 hl').1.symm.trans hg)

/-- The third run goes on while the tickets of the first two are still out. -/
theorem one_ticket_goes_on_of_three :
    let d := Desk.new.run [.begin, .requestEmergencyStop, .begin, .requestEmergencyStop, .begin]
    d.live = [⟨3⟩, ⟨2⟩, ⟨1⟩] ∧ d.token.stops ⟨3⟩ = false ∧
      ∀ l ∈ d.live, d.token.stops l = false → l = ⟨3⟩ := by
  intro d
  have hlive : d.live = [⟨3⟩, ⟨2⟩, ⟨1⟩] := by decide
  have hgoes : d.token.stops ⟨3⟩ = false := by decide
  obtain ⟨-, -, -, -, hone, -⟩ :=
    one_ticket_goes_on [.begin, .requestEmergencyStop, .begin, .requestEmergencyStop, .begin]
  exact ⟨hlive, hgoes, (hone ⟨3⟩ (by rw [hlive]; simp) hgoes).2.2⟩

end Desk

end BlockPilot
