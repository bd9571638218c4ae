import BlockPilot.Program.Slots
import BlockPilot.Proofs.ChainForm

/-!
# Texts of programs

A program whose chains are regular is given back by its compact and its pretty text, unless the text is
nested more deeply than a text may be; then that is the fault (`parse_compact`, `parse_pretty`). A
program that was read from a text is never nested too deeply, so that it can be saved and loaded as often
as one likes (`loaded_saves_and_loads`).

A number of more than fifteen digits may be read off by its last bit (`Json.scaleByTen`). That the numbers
of a program are given back by their own texts is therefore a hypothesis (`Binary64.ReadsBack`).
-/

namespace BlockPilot

open Json

/-! ## Whole texts -/

theorem Json.readText_leaving {α : Type} {reader : Reader α} {s : List Char} {result : Except JsonFault α}
    (h : reader s = leaving [] result) : readText reader (String.ofList s) = result := by
  rw [readText, String.toList_ofList, h, leaving_bind]
  cases result <;> rfl

theorem Json.of_readText {α : Type} {reader : Reader α} {text : String} {a : α}
    (h : readText reader text = .ok a) : ∃ rest, reader text.toList = .ok (a, rest) := by
  obtain ⟨⟨value, rest⟩, hread, h⟩ := bind_eq_ok.1 h
  simp only at h
  split at h
  · cases h
    exact ⟨rest, hread⟩
  · cases h

namespace Program

/-! ## Reading the chains of a program -/

/-- A chain, put in front of the chains before it. -/
def chainStep (room : Nat) (chains : List Chain) : Reader (List Chain) := fun s =>
  readObject room s >>= fun (members, rest) => Chain.ofJson (.object members) >>= fun c =>
    .ok (c :: chains, rest)

/-- Chains, if there is room enough for the values that they are written as. -/
def allWithin (room : Nat) (chains : List Chain) : Except JsonFault (List Chain) :=
  if ∀ c ∈ chains, c.toJson.depth ≤ room then .ok chains else .error .tooDeep

theorem readSequences_array {s t : List Char} (h : skipSpace s = '[' :: t) (room : Nat) :
    readSequences (room + 1) s =
      walkItems (chainStep room) (t.length + 1) true [] t >>= fun (chains, rest) =>
        .ok (chains.reverse, rest) := by
  rw [readSequences, h]
  rfl

section

variable {sp : Spacing} {level : Nat} {rest : List Char}

theorem readObject_spaced {members : List (String × Json)} (tidy : (Json.object members).Tidy)
    (back : (Json.object members).Exact) (room : Nat) (ends : Ends rest) :
    readObject room (spacedOnto sp level rest (.object members)) =
      leaving rest (if (Json.object members).depth ≤ room then .ok members else .error .tooDeep) := by
  have hread : readValue room (spacedOnto sp level rest (.object members)) =
      leaving rest (within room (.object members)) := givenBack tidy back room level rest ends
  have hskip : skipSpace (spacedOnto sp level rest (.object members)) =
      '\x7b' :: openMembers sp level rest members := by
    rw [spacedOnto_object, skipSpace_cons rfl]
  rw [readObject, hskip]
  simp only
  rw [hread, leaving_bind, within]
  split <;> rfl

/-- An object that is read is in order, and there is room for it. -/
theorem fine_readObject {room : Nat} {s : List Char} {members : List (String × Json)}
    (h : readObject room s = .ok (members, rest)) : (Json.object members).Fine room := by
  unfold readObject at h
  split at h
  · obtain ⟨⟨v, behind⟩, hv, h⟩ := bind_eq_ok.1 h
    have hfine : v.Fine room := fine_readValue hv
    split at h
    · rename_i heq
      cases heq
      cases h
      exact hfine
    · cases h
  · cases h

theorem chainStep_spaced {c : Chain} (hc : c.isEmpty = false) (regular : c.Regular) (back : c.toJson.Exact)
    (room : Nat) (chains : List Chain) (ends : Ends rest) :
    chainStep room chains (spacedOnto sp level rest c.toJson) =
      leaving rest (if c.toJson.depth ≤ room then .ok (c :: chains) else .error .tooDeep) := by
  have tidy := regular.tidy_toJson
  have hread := regular.ofLink_toJson
  obtain ⟨members, hmembers⟩ : ∃ members, c.toJson = .object members := by
    cases c with
    | nil => cases hc
    | block | loop => exact ⟨_, rfl⟩
  rw [hmembers] at tidy back hread ⊢
  rw [chainStep, readObject_spaced tidy back room ends, leaving_bind]
  split
  · rw [ok_bind]
    simp only [Chain.ofJson]
    rw [hread]
    rfl
  · rfl

/-- The chains of a program are read one after the other, if there is room for them all. -/
theorem readSequences_spaced {chains : List Chain} (hne : ∀ c ∈ chains, c.isEmpty = false)
    (regular : ∀ c ∈ chains, c.Regular) (back : ∀ c ∈ chains, c.toJson.Exact) {b : List Char}
    (hb : ∀ c ∈ b, isSpace c = true) (room : Nat) :
    readSequences (room + 1) (b ++ spacedOnto sp level rest (.array (chains.map Chain.toJson))) =
      leaving rest (allWithin room chains) := by
  have hskip : skipSpace (b ++ spacedOnto sp level rest (.array (chains.map Chain.toJson))) =
      '[' :: openItems sp level rest (chains.map Chain.toJson) := by
    rw [skipSpace_blank hb, spacedOnto_array, skipSpace_cons rfl]
  have hstep : ∀ c ∈ chains, ∀ state rest, Ends rest →
      chainStep room state (spacedOnto sp (level + 1) rest c.toJson) =
        leaving rest (if c.toJson.depth ≤ room then .ok (c :: state) else .error .tooDeep) :=
    fun c hc state _ ends => chainStep_spaced (hne c hc) (regular c hc) (back c hc) room state ends
  have hwalk := walkItems_open back hstep rest []
  rw [foldlM_guard] at hwalk
  rw [readSequences_array hskip, hwalk, leaving_bind, allWithin]
  split
  · simp [leaving, Except.map]
  · rfl

/-- A program is read from its record. -/
theorem read_record_spaced {chains : List Chain} (hne : ∀ c ∈ chains, c.isEmpty = false)
    (regular : ∀ c ∈ chains, c.Regular) (back : ∀ c ∈ chains, c.toJson.Exact) :
    record.read depthLimit []
        (spacedOnto sp level rest (.object [("sequences", .array (chains.map Chain.toJson))])) =
      leaving rest (allWithin (depthLimit - 2) chains) := by
  have hstep : ∀ e ∈ [("sequences", Json.array (chains.map Chain.toJson))],
      ∀ (state : List String × List Chain) (rest : List Char), Ends rest →
        record.readMember state e.1 (':' :: (sp.colon ++ spacedOnto sp (level + 1) rest e.2)) =
          leaving rest (if state.1.contains "sequences" then .error (.duplicateField "sequences")
            else (allWithin (depthLimit - 2) chains).map fun chains => ("sequences" :: state.1, chains)) := by
    intro e he state rest _
    obtain rfl : e = ("sequences", Json.array (chains.map Chain.toJson)) := by simpa using he
    have hfind : record.fields.find? (·.name == "sequences") =
        some ⟨"sequences", false, fun _ => readSequences (depthLimit - 1)⟩ := rfl
    have hread : readSequences (depthLimit - 1)
        (sp.colon ++ spacedOnto sp (level + 1) rest (.array (chains.map Chain.toJson))) =
          leaving rest (allWithin (depthLimit - 2) chains) :=
      readSequences_spaced hne regular back sp.blank_colon (depthLimit - 2)
    rw [Record.readMember]
    simp only [hfind]
    split
    · rfl
    · rw [readColon_spaced, ok_bind, hread, leaving_bind]
      cases allWithin (depthLimit - 2) chains <;> rfl
  have hwalk := walkMembers_open hstep rest ([], [])
  have hlimit : depthLimit ≠ 0 := by decide
  rw [Record.read, spacedOnto_object, skipSpace_cons rfl]
  simp only [if_neg hlimit]
  rw [Record.readMap, hwalk]
  cases allWithin (depthLimit - 2) chains <;> rfl

end

/-! ## Texts of programs -/

/-- Whether each chain of a program can be written and read. -/
def Regular (p : Program) : Prop := ∀ c ∈ p.sequences, c.Regular

theorem depth_toJson_le {p : Program} {n : Nat} :
    p.toJson.depth ≤ n + 2 ↔ ∀ c ∈ p.sequences, c.toJson.depth ≤ n := by
  have hdepth : p.toJson.depth = 2 + depthItems (p.sequences.map Chain.toJson) := by
    rw [toJson, Json.depth, depthMembers, depthMembers, Json.depth]
    omega
  rw [hdepth, Nat.add_comm, Nat.add_le_add_iff_right, depthItems_le]
  simp

/-- **Reading back.** A regular program is given back by its text with any spacing, if that is not nested
too deeply. -/
theorem parse_spaced {p : Program} (regular : p.Regular) (back : p.toJson.Exact) (sp : Spacing) :
    parse (String.ofList (spacedOnto sp 0 [] p.toJson)) =
      if p.toJson.depth ≤ depthLimit then .ok p else .error .tooDeep := by
  have hback : ∀ c ∈ p.sequences, c.toJson.Exact := by
    intro c hc x hx
    refine back x ?_
    simp only [toJson, numbers, numbersMembers, List.append_nil]
    exact mem_numbersItems.2 ⟨c.toJson, List.mem_map.2 ⟨c, hc, rfl⟩, hx⟩
  have hread : readText (record.read depthLimit []) (String.ofList (spacedOnto sp 0 [] p.toJson)) =
      allWithin (depthLimit - 2) p.sequences :=
    readText_leaving (read_record_spaced p.nonempty regular hback)
  have hdepth : p.toJson.depth ≤ depthLimit ↔ ∀ c ∈ p.sequences, c.toJson.depth ≤ depthLimit - 2 :=
    depth_toJson_le
  rw [parse, hread, allWithin]
  simp only [hdepth]
  split
  · rw [Except.map, ofChains_sequences]
  · rfl

theorem parse_compact {p : Program} (regular : p.Regular) (back : p.toJson.Exact) :
    parse p.compact = if p.toJson.depth ≤ depthLimit then .ok p else .error .tooDeep := by
  rw [compact, Json.compact, compactOnto_eq 0]
  exact parse_spaced regular back .compact

theorem parse_pretty {p : Program} (regular : p.Regular) (back : p.toJson.Exact) :
    parse p.pretty = if p.toJson.depth ≤ depthLimit then .ok p else .error .tooDeep := by
  rw [pretty, Json.pretty, prettyOnto_eq]
  exact parse_spaced regular back .pretty

/-! ## Programs that are read -/

theorem kept_readSequences {room : Nat} {chains : List Chain} {s rest : List Char}
    (h : readSequences room s = .ok (chains, rest)) : ∀ c ∈ chains, c.Kept (room - 1) := by
  -- each chain was read from an object that there was room for
  have step (room : Nat) (state : List Chain) (s : List Char) (next : List Chain) (rest : List Char)
      (hI : ∀ c ∈ state, c.Kept room) (h : chainStep room state s = .ok (next, rest)) :
      ∀ c ∈ next, c.Kept room := by
    obtain ⟨⟨members, behind⟩, hobject, h⟩ := bind_eq_ok.1 h
    obtain ⟨c, hc, h⟩ := bind_eq_ok.1 h
    cases h
    exact List.forall_mem_cons.2 ⟨Chain.kept_ofLink (fine_readObject hobject) hc, hI⟩
  unfold readSequences at h
  split at h
  · split at h
    · cases h
    · rename_i room
      obtain ⟨⟨last, behind⟩, hwalk, h⟩ := bind_eq_ok.1 h
      cases h
      have hlast : ∀ c ∈ last, c.Kept room :=
        walkItems_keeps (I := fun chains => ∀ c ∈ chains, c.Kept room) (step room) (by simp) hwalk
      exact fun c hc => hlast c (List.mem_reverse.1 hc)
  · cases h

/-- **What is read.** Each chain of a program that is read from a text can be written, and there is room
for what it is written as. -/
theorem kept_parse {text : String} {p : Program} (h : parse text = .ok p) :
    ∀ c ∈ p.sequences, c.Kept (depthLimit - 2) := by
  obtain ⟨chains, hread, rfl⟩ : ∃ chains, readText (record.read depthLimit []) text = .ok chains ∧
      ofChains chains = p := by
    rw [parse] at h
    cases hread : readText (record.read depthLimit []) text with
    | error fault =>
      rw [hread] at h
      cases h
    | ok chains =>
      rw [hread] at h
      cases h
      exact ⟨chains, rfl, rfl⟩
  obtain ⟨rest, hread⟩ := of_readText hread
  have hchains : ∀ c ∈ chains, c.Kept (depthLimit - 2) := by
    refine Record.read_keeps (I := fun chains => ∀ c ∈ chains, c.Kept (depthLimit - 2)) ?_ (by simp) hread
    intro field hfield state s next rest _ h
    obtain rfl : field = ⟨"sequences", false, fun _ => readSequences (depthLimit - 1)⟩ := by
      simpa [record] using hfield
    exact kept_readSequences h
  exact fun c hc => hchains c (List.mem_filter.1 hc).1

/-- **Saving what was loaded.** A program that a text gave is nested no more deeply than a text may be.
Both its texts give that same program, and so does a slot that it was saved in; what they give has the
same texts again. -/
theorem loaded_saves_and_loads {text : String} {p : Program} (h : parse text = .ok p)
    (back : ∀ x ∈ p.toJson.numbers, x.ReadsBack) :
    p.toJson.depth ≤ depthLimit ∧
      (parse p.compact = .ok p ∧ parse p.pretty = .ok p ∧
        ∀ name, Slots.ofContent name (.ok p.pretty) = .ok p) ∧
      ∀ q, parse p.compact = .ok q ∨ parse p.pretty = .ok q → q.compact = p.compact ∧ q.pretty = p.pretty := by
  have hkept := kept_parse h
  have regular : p.Regular := fun c hc => (hkept c hc).regular
  have hdepth : p.toJson.depth ≤ depthLimit := depth_toJson_le.2 fun c hc => (hkept c hc).fine.depth
  have hcompact : parse p.compact = .ok p := (parse_compact regular back).trans (if_pos hdepth)
  have hpretty : parse p.pretty = .ok p := (parse_pretty regular back).trans (if_pos hdepth)
  have hslot (name : String) : Slots.ofContent name (.ok p.pretty) = .ok p := by
    rw [Slots.ofContent, hpretty]
  refine ⟨hdepth, ⟨hcompact, hpretty, hslot⟩, fun q hq => ?_⟩
  obtain rfl : p = q := by
    rcases hq with hq | hq
    · exact Except.ok.inj (hcompact.symm.trans hq)
    · exact Except.ok.inj (hpretty.symm.trans hq)
  exact ⟨rfl, rfl⟩

theorem exists_of_toOption_map {ε α β : Type} {x : Except ε α} {f : α → β} {b : β}
    (h : x.toOption.map f = some b) : ∃ a, x = .ok a ∧ f a = b := by
  cases x with
  | error => cases h
  | ok a => exact ⟨a, rfl, Option.some.inj h⟩

/-- A whole number is written with a fraction, and given back. -/
theorem readsBack_five : (Binary64.ofNat 5).ReadsBack := by
  have hscale : scaleByTen (.ofNat 50) (-1) = .ok (.ofNat 5) := by
    rw [scaleByTen, if_neg (by decide), if_neg (by decide), if_pos (by decide)]
    exact congrArg Except.ok (by decide +kernel)
  refine .of_readNumber (c := '5') (s := ['.', '0']) (by decide +kernel) (by decide) ?_
  simp [readNumber, readWhole, isDigit, gather, digitValue, readFraction, readScale, binaryOf, hscale,
    UInt64.size]

/-- A wait with a block of no type behind it: the number of seconds comes back with a fraction, the block
with an empty type, and members that no block reads do not come back. -/
theorem loaded_saves_and_loads_unknown :
    ∃ p, parse ("\x7b\"sequences\": [\x7b\"type\": \"wait\", \"seconds\": 5, \"note\": null, " ++
        "\"next\": \x7b\"beep\": [1, \x7b\x7d], \"next\": null\x7d\x7d]\x7d") = .ok p ∧
      (∀ x ∈ p.toJson.numbers, x.ReadsBack) ∧
      p.compact = "\x7b\"sequences\":[\x7b\"next\":\x7b\"beep\":[1,\x7b\x7d],\"type\":\"\"\x7d," ++
        "\"seconds\":5.0,\"type\":\"wait\"\x7d]\x7d" ∧
      p.toJson.depth ≤ depthLimit ∧
      (parse p.compact = .ok p ∧ parse p.pretty = .ok p ∧
        ∀ name, Slots.ofContent name (.ok p.pretty) = .ok p) ∧
      ∀ q, parse p.compact = .ok q ∨ parse p.pretty = .ok q →
        q.compact = p.compact ∧ q.pretty = p.pretty := by
  have hloads : (parse ("\x7b\"sequences\": [\x7b\"type\": \"wait\", \"seconds\": 5, \"note\": null, " ++
      "\"next\": \x7b\"beep\": [1, \x7b\x7d], \"next\": null\x7d\x7d]\x7d")).toOption.map
        (fun p => (p.compact, p.toJson.numbers)) =
      some ("\x7b\"sequences\":[\x7b\"next\":\x7b\"beep\":[1,\x7b\x7d],\"type\":\"\"\x7d," ++
        "\"seconds\":5.0,\"type\":\"wait\"\x7d]\x7d", [.ofNat 5]) := by
    decide +kernel
  obtain ⟨p, hparse, hp⟩ := exists_of_toOption_map hloads
  obtain ⟨hcompact, hnumbers⟩ := Prod.ext_iff.1 hp
  have back : ∀ x ∈ p.toJson.numbers, x.ReadsBack := by
    intro x hx
    rw [show p.toJson.numbers = [.ofNat 5] from hnumbers] at hx
    rw [List.mem_singleton.1 hx]
    exact readsBack_five
  exact ⟨p, hparse, back, hcompact, loaded_saves_and_loads hparse back⟩

end Program

end BlockPilot
