import BlockPilot.Proofs.ChainForm

/-!
# Which values are blocks

`Json.IsBlock` says which values describe a block, whatever a reader does with them: an object whose
links are blocks again. Reading a value gives a chain exactly if the value is one of these
(`Chain.read_iff_isBlock`), so that neither a field, nor a member that no block knows, nor an unknown type
keeps a block from being read, however deep it is.
-/

namespace BlockPilot

open Keyed

/-- A value that describes a block: an object whose `next` is absent, null or a block, and whose `body`
is so too if its type is that of a loop. -/
inductive Json.IsBlock : Json → Prop
  | object {members : List (String × Json)}
      (next : ∀ v, lookup "next" members = some v → v ≠ .null → v.IsBlock)
      (body : ∀ kind : LoopKind, lookup "type" members = some (.string kind.type) →
        ∀ v, lookup "body" members = some v → v ≠ .null → v.IsBlock) :
      IsBlock (.object members)

namespace Chain

section

variable {members : List (String × Json)} {next : Chain} {body : Except JsonFault Chain}

/-- A block is a loop if its type is the text that says so. -/
theorem typeName_eq_type (kind : LoopKind) :
    typeName members = kind.type ↔ lookup "type" members = some (.string kind.type) := by
  unfold typeName
  split
  · rename_i name h
    simp [h]
  · rename_i h
    constructor
    · cases kind <;> simp [LoopKind.type]
    · intro hname
      exact absurd hname (h _)

/-- Of all the types, only those of the loops need their body. -/
theorem assemble_ok_iff :
    (∃ c, assemble members next body = .ok c) ↔
      ∀ kind : LoopKind, lookup "type" members = some (.string kind.type) → ∃ b, body = .ok b := by
  constructor
  · rintro ⟨c, h⟩ kind hkind
    cases body with
    | ok b => exact ⟨b, rfl⟩
    | error fault =>
      unfold assemble at h
      rw [(typeName_eq_type kind).2 hkind] at h
      cases kind <;> cases h
  · intro h
    by_cases hloop : ∃ kind : LoopKind, typeName members = kind.type
    · obtain ⟨kind, hkind⟩ := hloop
      obtain ⟨b, rfl⟩ := h kind ((typeName_eq_type kind).1 hkind)
      exact ⟨_, assemble_of_loop hkind next b⟩
    · -- every other type is read without its body
      have hfixed : typeName members ≠ "repeat" := fun ht => hloop ⟨.fixed, ht⟩
      have hcounted : typeName members ≠ "repeat_counted" := fun ht => hloop ⟨.counted, ht⟩
      unfold assemble
      split
      case h_6 ht => exact absurd ht hfixed
      case h_7 ht => exact absurd ht hcounted
      all_goals exact ⟨_, rfl⟩

/-- A member gives a chain unless it is there, is not null and gives none. -/
theorem ofMember_ok_iff (name : String)
    (h : ∀ e ∈ members, (∃ c, ofLink e.2 = .ok c) ↔ e.2 = .null ∨ e.2.IsBlock) :
    (∃ c, ofMember name members = .ok c) ↔
      ∀ v, lookup name members = some v → v ≠ .null → v.IsBlock := by
  rw [ofMember_eq]
  cases hv : lookup name members with
  | none => simp
  | some v =>
    have hlink : (∃ c, ofLink v = .ok c) ↔ v = .null ∨ v.IsBlock := h _ (mem_of_lookup hv)
    simp only [Option.map_some, Option.getD_some, hlink, Option.some.injEq, forall_eq']
    by_cases hnull : v = .null
    · simp [hnull]
    · simp [hnull]

end

theorem ofLink_ok_iff (v : Json) : (∃ c, ofLink v = .ok c) ↔ v = .null ∨ v.IsBlock := by
  -- what is neither null nor an object describes nothing
  have scalar {v : Json} (hread : ofLink v = .error (.wrongType v.found "a map")) (hnull : v ≠ .null)
      (hobject : ∀ members, v ≠ .object members) : (∃ c, ofLink v = .ok c) ↔ v = .null ∨ v.IsBlock := by
    constructor
    · rintro ⟨c, hc⟩
      cases hread.symm.trans hc
    · rintro (hv | hv)
      · exact absurd hv hnull
      · cases hv with
        | object next body => exact absurd rfl (hobject _)
  induction v using Json.induction with
  | null => exact ⟨fun _ => Or.inl rfl, fun _ => ⟨.nil, rfl⟩⟩
  | bool | number | string | array => exact scalar (by simp [ofLink]) (by simp) (by simp)
  | object members ih =>
    have hnext := ofMember_ok_iff "next" ih
    have hbody := ofMember_ok_iff "body" ih
    rw [ofLink]
    constructor
    · rintro ⟨c, h⟩
      obtain ⟨next, hread, h⟩ := Json.bind_eq_ok.1 h
      refine Or.inr (.object (hnext.1 ⟨next, hread⟩) fun kind hkind => ?_)
      exact hbody.1 (assemble_ok_iff.1 ⟨c, h⟩ kind hkind)
    · rintro (hv | hv)
      · cases hv
      · cases hv with
        | object next body =>
          obtain ⟨chain, hread⟩ := hnext.2 next
          rw [hread, Json.ok_bind]
          exact assemble_ok_iff.2 fun kind hkind => hbody.2 (body kind hkind)

theorem ofJson_ok_iff (v : Json) : (∃ c, ofJson v = .ok c) ↔ v.IsBlock := by
  by_cases hnull : v = .null
  · subst hnull
    constructor
    · rintro ⟨c, h⟩
      cases h
    · rintro ⟨⟩
  · have hread : ofJson v = ofLink v := by
      cases v with
      | null => exact absurd rfl hnull
      | bool | number | string | array | object => rfl
    rw [hread, ofLink_ok_iff]
    exact or_iff_right hnull

/-- A text is read exactly if it is that of an object which describes a block. -/
theorem parse_ok_iff (text : String) : (∃ c, parse text = .ok c) ↔
    ∃ members, Json.readText (Json.readObject Json.depthLimit) text = .ok members ∧
      (Json.object members).IsBlock := by
  simp only [parse, Json.readText]
  cases hobject : Json.readObject Json.depthLimit text.toList with
  | error fault =>
    constructor
    · rintro ⟨c, h⟩
      cases h
    · rintro ⟨members, h, -⟩
      cases h
  | ok object =>
    obtain ⟨members, rest⟩ := object
    -- behind the object comes nothing, or the text is refused in any case
    simp only [Json.ok_bind]
    constructor
    · rintro ⟨c, h⟩
      obtain ⟨⟨chain, behind⟩, hread, h⟩ := Json.bind_eq_ok.1 h
      obtain ⟨chain', hjson, hread⟩ := Json.bind_eq_ok.1 hread
      cases hread
      refine ⟨members, ?_, (ofJson_ok_iff _).1 ⟨_, hjson⟩⟩
      split at h
      · rename_i hrest
        simp [hrest]
      · cases h
    · rintro ⟨members', h, hblock⟩
      split at h
      · rename_i hrest
        cases h
        obtain ⟨c, hc⟩ := (ofJson_ok_iff _).2 hblock
        exact ⟨c, by simp [hc, Json.ok_bind, hrest]⟩
      · cases h

/-- **The grammar of blocks.** A value is read as a chain exactly if it describes a block, and a text
exactly if it is that of an object which does. -/
theorem read_iff_isBlock :
    (∀ v, (∃ c, ofJson v = .ok c) ↔ v.IsBlock) ∧
    ∀ text, (∃ c, parse text = .ok c) ↔
      ∃ members, Json.readText (Json.readObject Json.depthLimit) text = .ok members ∧
        (Json.object members).IsBlock := by
  refine ⟨fun v => ?_, fun text => ?_⟩
  · exact ofJson_ok_iff v
  · exact parse_ok_iff text

end Chain

end BlockPilot
