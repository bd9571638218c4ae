import BlockPilot.Proofs.ProgramText

/-!
# Programs of the builders

A program that is put together by the builders holds finite numbers and texts only, so that its text is
nested as deeply as the program, with two levels for the program itself. It can be written in any case;
whether it can be read again depends on nothing but its depth (`built_loads`).
-/

namespace BlockPilot

namespace Chain

/-- The chains that the builders make of a block, and of blocks behind one another. -/
inductive Built : Chain → Prop where
  | move (d : Direction) : Built (move d)
  | stop : Built stop
  | wait {seconds : Binary64} (finite : seconds.isFinite = true) : Built (wait seconds)
  | setSpeed {speed : Nat} (fits : speed < UInt16.size) : Built (setSpeed speed)
  | repeatFixed {times : Nat} {body : List Chain} (fits : times < UInt32.size) (built : ∀ c ∈ body, Built c) :
      Built (repeatFixed times body)
  | repeatCounted {times : Option Nat} {body : List Chain} (fits : ∀ n ∈ times, n < UInt32.size)
      (built : ∀ c ∈ body, Built c) : Built (repeatCounted times body)
  | print (message : String) : Built (print message)
  | withNext {c next : Chain} (first : Built c) (behind : Built next) : Built (c.withNext next)

theorem Flat.withNext {c next : Chain} (h : c.Flat) (hnext : next.Flat) : (c.withNext next).Flat := by
  cases c with
  | nil => trivial
  | block b _ => exact ⟨h.1, h.2.1, hnext⟩
  | loop kind times body _ => exact ⟨h.1, h.2.1, hnext⟩

theorem Flat.link {chains : List Chain} (h : ∀ c ∈ chains, c.Flat) : (link chains).Flat := by
  induction chains with
  | nil => trivial
  | cons c chains ih =>
    have hrest : (Chain.link chains).Flat := ih fun c hc => h c (List.mem_cons_of_mem _ hc)
    cases c with
    | nil => exact hrest
    | block | loop => exact (h _ List.mem_cons_self).withNext hrest

theorem flat_text (s : String) : (FieldValue.text s).Flat := ⟨trivial, rfl⟩

theorem flat_number {x : Binary64} (h : x.isFinite = true) : (FieldValue.number x).Flat where
  regular := h
  depth := by
    rw [FieldValue.toJson_number h]
    rfl

theorem flat_naturalField {n : Nat} (h : n < UInt32.size) : (naturalField n).Flat :=
  flat_number (Binary64.isFinite_ofNat (Nat.le_trans (Nat.le_of_lt h) (by decide)))

/-- The field of a block with one field and nothing behind it. -/
theorem flat_single {f : FieldValue} (h : f.Flat) :
    (∀ g ∈ some f, g.Regular) ∧ (∀ g ∈ some f, g.toJson.depth = 0) ∧ Chain.nil.Flat := by
  refine ⟨?_, ?_, trivial⟩
  · rintro g ⟨⟩
    exact h.regular
  · rintro g ⟨⟩
    exact h.depth

theorem Built.flat {c : Chain} (h : c.Built) : c.Flat := by
  induction h with
  | move d => exact flat_single (flat_text d.name)
  | stop => exact ⟨trivial, trivial, trivial⟩
  | wait finite => exact flat_single (flat_number finite)
  | setSpeed fits => exact flat_single (flat_naturalField (Nat.lt_trans fits (by decide)))
  | repeatFixed fits _ ih =>
    refine ⟨?_, .link ih, trivial⟩
    rintro f ⟨⟩
    exact flat_naturalField fits
  | repeatCounted fits _ ih =>
    refine ⟨fun f hf => ?_, .link ih, trivial⟩
    obtain ⟨n, hn, rfl⟩ := Option.map_eq_some_iff.1 hf
    exact flat_naturalField (fits n hn)
  | print message => exact flat_single (flat_text message)
  | withNext _ _ ih ihnext => exact ih.withNext ihnext

end Chain

namespace Program

/-- The programs that the builders make. -/
inductive Built : Program → Prop where
  | fromSequences {sequences : List (List Chain)} (built : ∀ s ∈ sequences, ∀ c ∈ s, c.Built) :
      Built (ofChains (sequences.map Chain.link))
  | pushSequence {p : Program} {blocks : List Chain} (before : Built p) (built : ∀ c ∈ blocks, c.Built) :
      Built (p.push (.link blocks))
  | pushRoot {p : Program} {c : Chain} (before : Built p) (built : c.Built) : Built (p.push c)

/-- The depth of the deepest chain. -/
def depth (p : Program) : Nat :=
  (p.sequences.map Chain.depth).foldr max 0

theorem depth_le {p : Program} {n : Nat} : p.depth ≤ n ↔ ∀ c ∈ p.sequences, c.depth ≤ n := by
  rw [depth]
  induction p.sequences with
  | nil => simp
  | cons c chains ih => rw [List.map_cons, List.foldr_cons, Nat.max_le, ih, List.forall_mem_cons]

theorem Built.flat {p : Program} (h : p.Built) : ∀ c ∈ p.sequences, c.Flat := by
  -- empty chains are left out, and the others were built
  have kept {chains : List Chain} (h : ∀ c ∈ chains, c.Flat) : ∀ c ∈ (ofChains chains).sequences, c.Flat :=
    fun c hc => h c (List.mem_filter.1 hc).1
  have pushed {p : Program} {new : Chain} (h : ∀ c ∈ p.sequences, c.Flat) (hnew : new.Flat) :
      ∀ c ∈ (p.push new).sequences, c.Flat := by
    refine kept fun c hc => ?_
    rcases List.mem_append.1 hc with hc | hc
    · exact h c hc
    · rwa [List.mem_singleton.1 hc]
  induction h with
  | fromSequences built =>
    refine kept fun c hc => ?_
    obtain ⟨s, hs, rfl⟩ := List.mem_map.1 hc
    exact .link fun c hc => (built s hs c hc).flat
  | pushSequence _ built ih => exact pushed ih (.link fun c hc => (built c hc).flat)
  | pushRoot _ built ih => exact pushed ih built.flat

/-- **Loading what was built.** The text of a program of the builders gives the program again, if the
program is not too deep together with its record and its list; otherwise the text is too deep. -/
theorem built_loads {p : Program} (built : p.Built) (back : ∀ x ∈ p.toJson.numbers, x.ReadsBack) :
    (parse p.compact = if 2 + p.depth ≤ Json.depthLimit then .ok p else .error .tooDeep) ∧
    (parse p.pretty = if 2 + p.depth ≤ Json.depthLimit then .ok p else .error .tooDeep) ∧
    ∀ name, Slots.ofContent name (.ok p.pretty) =
      if 2 + p.depth ≤ Json.depthLimit then .ok p else .error (.json .tooDeep) := by
  have regular : p.Regular := fun c hc => (built.flat c hc).regular
  have hdepth : p.toJson.depth ≤ Json.depthLimit ↔ 2 + p.depth ≤ Json.depthLimit := by
    have hflat : (∀ c ∈ p.sequences, c.toJson.depth ≤ Json.depthLimit - 2) ↔
        p.depth ≤ Json.depthLimit - 2 := by
      rw [depth_le]
      exact forall₂_congr fun c hc => by rw [(built.flat c hc).depth_toJson]
    have hlimit : Json.depthLimit = 127 := rfl
    rw [show Json.depthLimit = Json.depthLimit - 2 + 2 from rfl, depth_toJson_le, hflat]
    omega
  have hcompact := parse_compact regular back
  have hpretty := parse_pretty regular back
  simp only [hdepth] at hcompact hpretty
  refine ⟨hcompact, hpretty, fun name => ?_⟩
  rw [Slots.ofContent, hpretty]
  by_cases hfits : 2 + p.depth ≤ Json.depthLimit
  · simp only [if_pos hfits]
  · simp only [if_neg hfits]

/-- A number of stops behind one another. -/
def stops (n : Nat) : Program := ofChains ([List.replicate n Chain.stop].map Chain.link)

theorem built_stops (n : Nat) : (stops n).Built := by
  refine .fromSequences fun s hs c hc => ?_
  rw [List.mem_singleton.1 hs] at hc
  rw [List.eq_of_mem_replicate hc]
  exact .stop

/-- A wait in a loop. -/
def waiting : Program := ofChains ([[Chain.repeatFixed 5 [.wait (.ofNat 5)]]].map Chain.link)

theorem built_waiting : waiting.Built := by
  refine .fromSequences fun s hs c hc => ?_
  rw [List.mem_singleton.1 hs] at hc
  rw [List.mem_singleton.1 hc]
  refine .repeatFixed (by decide) fun d hd => ?_
  rw [List.mem_singleton.1 hd]
  exact .wait (by decide +kernel)

/-- There is room for a hundred and twenty-five stops, and not for one more. -/
theorem built_loads_up_to_limit :
    (waiting.Built ∧ (∀ x ∈ waiting.toJson.numbers, x.ReadsBack) ∧ parse waiting.pretty = .ok waiting) ∧
    ((stops 125).Built ∧ (stops 125).toJson.numbers = [] ∧ parse (stops 125).pretty = .ok (stops 125)) ∧
    ((stops 126).Built ∧ (stops 126).toJson.numbers = [] ∧ parse (stops 126).pretty = .error .tooDeep) := by
  have hwaiting : ∀ x ∈ waiting.toJson.numbers, x.ReadsBack := by
    have hnumbers : ∀ x ∈ waiting.toJson.numbers, x = .ofNat 5 := by decide +kernel
    intro x hx
    rw [hnumbers x hx]
    exact readsBack_five
  have hfits : (stops 125).toJson.numbers = [] := by decide +kernel
  have hdeep : (stops 126).toJson.numbers = [] := by decide +kernel
  refine ⟨⟨built_waiting, hwaiting, ?_⟩, ⟨built_stops 125, hfits, ?_⟩, ⟨built_stops 126, hdeep, ?_⟩⟩
  · exact (built_loads built_waiting hwaiting).2.1.trans (if_pos (by decide +kernel))
  · exact (built_loads (built_stops 125) (by simp [hfits])).2.1.trans (if_pos (by decide +kernel))
  · exact (built_loads (built_stops 126) (by simp [hdeep])).2.1.trans (if_neg (by decide +kernel))

end Program

end BlockPilot
