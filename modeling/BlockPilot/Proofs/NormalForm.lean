import BlockPilot.Proofs.BlockGrammar

/-!
# Normal forms of blocks

`Json.norm` says what is left of the value of a block when the block is read and written again, member by
member and whatever reads or writes it: a known block keeps the fields that it declares, every other
block keeps all that it has, and both have their links in normal form. What a chain that was read is
written as is just that (`Chain.writes_normal_form`), so that a block which nobody knows, with such
blocks behind it, comes back as it was.
-/

namespace BlockPilot

open Keyed

namespace Json

/-! ## What becomes of a member -/

/-- What a block of a known type declares: its field, if it has one, and whether it has a body. -/
structure Shape where
  field : Option String
  hasBody : Bool

/-- The known types with what they declare. -/
def shapes : List (String × Shape) := [
  ("move", ⟨some "direction", false⟩),
  ("stop", ⟨none, false⟩),
  ("wait", ⟨some "seconds", false⟩),
  ("set_speed", ⟨some "speed", false⟩),
  ("repeat", ⟨some "times", true⟩),
  ("repeat_counted", ⟨some "times", true⟩),
  ("print", ⟨some "message", false⟩)]

/-- The type of a block, if it is a text. -/
def typeText? (members : List (String × Json)) : Option String :=
  match lookup "type" members with
  | some (.string type) => some type
  | _ => none

/-- What the block with these members declares, if its type is known. -/
def shape? (members : List (String × Json)) : Option Shape :=
  (typeText? members).bind (lookup · shapes)

/-- What becomes of a member when its block is read and written. -/
inductive Fate where
  | dropped
  | verbatim
  /-- Null is dropped, and a number is written as a binary number. -/
  | field
  /-- Null is dropped, and any other value is put in normal form. -/
  | link

/-- The fate of a member of a block that declares `shape`, or of an unknown one. -/
def fate (shape : Option Shape) (key : String) : Fate :=
  if key = "next" then .link
  else match shape with
    | none => .verbatim
    | some s =>
      if key = "type" then .verbatim
      else if s.field = some key then .field
      else if s.hasBody = true ∧ key = "body" then .link
      else .dropped

/-- What is left of a value, `normal` being its normal form. -/
def Fate.keep (v normal : Json) : Fate → Option Json
  | .dropped => none
  | .verbatim => some v
  | .field => match v with
    | .null => none
    | .number n => some (.number (.binary n.toBinary))
    | v => some v
  | .link => match v with
    | .null => none
    | _ => some normal

/-- The members, with an empty type unless they have a text for one. -/
def typed (members : List (String × Json)) : List (String × Json) :=
  match typeText? members with
  | some _ => members
  | none => insert "type" (.string "") members

mutual

/-- The normal form of a value that describes a block. -/
def norm : Json → Json
  | .object members => .object (typed (normMembers (shape? members) members))
  | v => v

/-- What is left of the members of a block. -/
def normMembers (shape : Option Shape) : List (String × Json) → List (String × Json)
  | [] => []
  | (key, v) :: rest => match (fate shape key).keep v (norm v) with
    | some w => (key, w) :: normMembers shape rest
    | none => normMembers shape rest

end

/-! ## Looking up in a normal form -/

section

variable {shape : Option Shape} {members : List (String × Json)} {key : String}

theorem keys_normMembers (shape : Option Shape) (members : List (String × Json)) :
    ((normMembers shape members).map (·.1)).Sublist (members.map (·.1)) := by
  induction members with
  | nil => exact List.Sublist.refl _
  | cons e members ih =>
    obtain ⟨k, v⟩ := e
    rw [normMembers]
    split
    · exact ih.cons_cons k
    · exact ih.cons k

theorem ordered_normMembers (h : Ordered members) : Ordered (normMembers shape members) :=
  List.pairwise_map.1 ((List.pairwise_map.2 h).sublist (keys_normMembers shape members))

theorem lookup_normMembers (h : Ordered members) :
    lookup key (normMembers shape members) =
      (lookup key members).bind fun v => (fate shape key).keep v v.norm := by
  induction members with
  | nil => rfl
  | cons e members ih =>
    obtain ⟨k, v⟩ := e
    obtain ⟨hk, hrest⟩ := List.pairwise_cons.1 h
    rw [lookup_cons, normMembers]
    by_cases hkey : k = key
    · subst hkey
      rw [if_pos rfl, Option.bind_some]
      split
      · rename_i w hkeep
        rw [lookup_cons, if_pos rfl, hkeep]
      · rename_i hkeep
        rw [ih hrest, lookup_of_lt hk, hkeep]
        rfl
    · rw [if_neg hkey, ← ih hrest]
      split
      · rw [lookup_cons, if_neg hkey]
      · rfl

theorem fate_type (shape : Option Shape) : fate shape "type" = .verbatim := by
  cases shape <;> simp [fate]

/-- No type gets lost. -/
theorem typeText?_normMembers (h : Ordered members) :
    typeText? (normMembers shape members) = typeText? members := by
  rw [typeText?, typeText?, lookup_normMembers h, fate_type]
  cases lookup "type" members <;> rfl

theorem ordered_typed (h : Ordered members) : Ordered (typed members) := by
  unfold typed
  split
  · exact h
  · exact h.insert

theorem lookup_typed :
    lookup key (typed members) =
      if key = "type" then some (.string ((typeText? members).getD "")) else lookup key members := by
  unfold typed
  split
  · rename_i type htype
    split
    · rename_i hkey
      subst hkey
      rw [htype, Option.getD_some]
      unfold typeText? at htype
      split at htype
      · rename_i heq
        cases htype
        exact heq
      · cases htype
    · rfl
  · rename_i htype
    split
    · rename_i hkey
      subst hkey
      rw [lookup_insert_self, htype]
      rfl
    · rename_i hkey
      exact lookup_insert_of_ne (Ne.symm hkey) _ _

/-- What a normal form has for a key. -/
theorem lookup_norm (h : Ordered members) :
    lookup key (typed (normMembers (shape? members) members)) =
      if key = "type" then some (.string ((typeText? members).getD ""))
      else (lookup key members).bind fun v => (fate (shape? members) key).keep v v.norm := by
  rw [lookup_typed, typeText?_normMembers h, lookup_normMembers h]

/-- A list of members in order that has the same for every key is the normal form. -/
theorem object_eq_norm {written : List (String × Json)} (h : Ordered members) (hw : Ordered written)
    (htype : lookup "type" written = some (.string ((typeText? members).getD "")))
    (hkeep : ∀ key, key ≠ "type" → lookup key written =
      (lookup key members).bind fun v => (fate (shape? members) key).keep v v.norm) :
    Json.object written = (Json.object members).norm := by
  rw [norm]
  congr 1
  refine hw.ext (ordered_typed (ordered_normMembers h)) fun key => ?_
  rw [lookup_norm h]
  split
  · rename_i hkey
    rw [hkey, htype]
  · rename_i hkey
    exact hkeep key hkey

end

/-! ## A normal form is its own -/

/-- What is kept is kept again. -/
theorem Fate.keep_keep {f : Fate} {v w normal again : Json} (h : f.keep v normal = some w)
    (hnormal : normal = .null → v = .null) (hagain : normal = w → again = normal) :
    f.keep w again = some w := by
  cases f with
  | dropped => cases h
  | verbatim => rfl
  | field =>
    cases v with
    | null => cases h
    | number n =>
      cases h
      rfl
    | bool | string | array | object =>
      cases h
      rfl
  | link =>
    have hv : v ≠ .null := by
      rintro rfl
      cases h
    obtain rfl : normal = w := by
      cases v with
      | null => exact absurd rfl hv
      | bool | number | string | array | object =>
        cases h
        rfl
    have hnull : normal ≠ .null := fun heq => hv (hnormal heq)
    rw [hagain rfl]
    cases normal with
    | null => exact absurd rfl hnull
    | bool | number | string | array | object => rfl

theorem norm_eq_null {v : Json} (h : v.norm = .null) : v = .null := by
  cases v with
  | null => rfl
  | bool | number | string | array | object => cases h

/-- Putting a value in normal form twice is putting it in normal form. -/
theorem norm_norm {v : Json} (tidy : v.Tidy) : v.norm.norm = v.norm := by
  induction v using Json.induction with
  | null | bool | number | string | array => rfl
  | object members ih =>
    obtain ⟨ordered, htidy⟩ := tidy
    have hnormal : Ordered (normMembers (shape? members) members) := ordered_normMembers ordered
    have htypes : typeText? (typed (normMembers (shape? members) members)) =
        some ((typeText? members).getD "") := by
      rw [typeText?, lookup_norm ordered, if_pos rfl]
    -- a block without a text for its type is as unknown as one with an empty text
    have hshape : shape? (typed (normMembers (shape? members) members)) = shape? members := by
      rw [shape?, htypes, shape?]
      cases typeText? members <;> rfl
    refine (object_eq_norm (ordered_typed hnormal) (ordered_typed hnormal) ?_ ?_).symm
    · rw [htypes, lookup_norm ordered, if_pos rfl]
      rfl
    · intro key hkey
      rw [hshape, lookup_norm ordered, if_neg hkey]
      cases hv : lookup key members with
      | none => rfl
      | some v =>
        rw [Option.bind_some]
        cases hw : (fate (shape? members) key).keep v v.norm with
        | none => rfl
        | some w =>
          have hmem := mem_of_lookup hv
          refine (Fate.keep_keep hw norm_eq_null fun heq => ?_).symm
          rw [← heq]
          exact ih _ hmem (tidyMembers_iff.1 htidy _ hmem)

end Json

/-! ## What a chain is written as -/

/-- A link's value, if there is one. -/
def Json.link? : Json → Option Json
  | .null => none
  | v => some v

section

variable {name key type : String} {value : Option FieldValue} {v w : Json}
  {members : List (String × Json)}

theorem lookup_insert (key other : String) (v : Json) (members : List (String × Json)) :
    lookup key (insert other v members) = if other = key then some v else lookup key members := by
  split
  · rename_i h
    rw [h, lookup_insert_self]
  · rename_i h
    exact lookup_insert_of_ne h v members

theorem lookup_putLink (h : Absent name members) :
    lookup key (putLink name v members) = if name = key then v.link? else lookup key members := by
  cases v with
  | null =>
    split
    · rename_i hkey
      subst hkey
      exact lookup_of_absent h
    · rfl
  | bool | number | string | array | object => exact lookup_insert ..

theorem ordered_putLink (h : Ordered members) (name : String) (v : Json) :
    Ordered (putLink name v members) := by
  rcases putLink_cases name v members with ⟨-, hput⟩ | hput
  · rwa [hput]
  · rw [hput]
    exact h.insert

theorem lookup_putField : lookup key (putField name value []) =
    if name = key then value.map FieldValue.toJson else none := by
  cases value with
  | none => simp [putField]
  | some f => rw [putField, lookup_insert, lookup_nil, Option.map_some]

theorem lookup_blockMembers : lookup key (blockMembers type name value) =
    if "type" = key then some (.string type) else if name = key then value.map FieldValue.toJson else none := by
  rw [blockMembers, lookup_insert, lookup_putField]

/-- The members of a block with its links. -/
theorem lookup_links (hnext : name ≠ "next") (hbody : name ≠ "body") :
    lookup key (putLink "next" v (putLink "body" w (blockMembers type name value))) =
      if "next" = key then v.link? else if "body" = key then w.link?
      else lookup key (blockMembers type name value) := by
  have habsent : Absent "body" (blockMembers type name value) := absent_blockMembers hbody (by decide)
  have habsent' : Absent "next" (putLink "body" w (blockMembers type name value)) :=
    absent_putLink (absent_blockMembers hnext (by decide)) (by decide)
  rw [lookup_putLink habsent', lookup_putLink habsent]

theorem ordered_links :
    Ordered (putLink "next" v (putLink "body" w (blockMembers type name value))) := by
  have hbare : Ordered (blockMembers type name value) :=
    (every_blockMembers (P := fun _ => True) trivial fun _ _ => trivial).ordered
  exact ordered_putLink (ordered_putLink hbare _ _) _ _

end

namespace Chain

section

variable {name key type : String} {v : Json} {members : List (String × Json)} {next c : Chain}
  {body : Except JsonFault Chain}

/-- A field is written as what is left of its member. -/
theorem field_map_toJson (tidy : ∀ e ∈ members, e.2.Tidy) :
    (field name members).map FieldValue.toJson =
      (lookup name members).bind fun v => Json.Fate.field.keep v v.norm := by
  rw [field]
  cases hv : lookup name members with
  | none => rfl
  | some v =>
    rw [Option.bind_some, Option.bind_some]
    cases v with
    | number n =>
      have hfinite : n.toBinary.isFinite = true := JsonNumber.Fits.toBinary (tidy _ (mem_of_lookup hv))
      exact congrArg some (FieldValue.toJson_number hfinite)
    | null | bool | string | array | object => rfl

/-- A link is written as what is left of its member, if what it leads to is written in normal form. -/
theorem link?_toJson (h : ofMember name members = .ok c)
    (ih : ∀ e ∈ members, ∀ c, ofLink e.2 = .ok c → c.toJson = e.2.norm) :
    c.toJson.link? = (lookup name members).bind fun v => Json.Fate.link.keep v v.norm := by
  rw [ofMember_eq] at h
  cases hv : lookup name members with
  | none =>
    rw [hv] at h
    cases h
    rfl
  | some v =>
    rw [hv] at h
    have hnorm : c.toJson = v.norm := ih _ (mem_of_lookup hv) c h
    rw [hnorm, Option.bind_some]
    cases v <;> rfl

theorem typeName_eq (members : List (String × Json)) :
    typeName members = (Json.typeText? members).getD "" := by
  unfold typeName Json.typeText?
  cases lookup "type" members with
  | none => rfl
  | some v => cases v <;> rfl

theorem typeText?_of_typeName (h : typeName members = type) (hne : type ≠ "") :
    Json.typeText? members = some type := by
  rw [typeName_eq] at h
  cases htype : Json.typeText? members with
  | none =>
    rw [htype] at h
    exact absurd h.symm hne
  | some t =>
    rw [htype] at h
    exact congrArg some h

/-- What is no known type declares nothing. -/
theorem shape?_of_unknown (h : typeName members ∉ Block.types) : Json.shape? members = none := by
  rw [typeName_eq] at h
  rw [Json.shape?]
  cases htype : Json.typeText? members with
  | none => rfl
  | some type =>
    rw [htype, Option.getD_some] at h
    refine lookup_of_absent fun e he heq => h ?_
    subst heq
    have hall : ∀ e ∈ Json.shapes, e.1 ∈ Block.types := by simp [Json.shapes, Block.types]
    exact hall e he

/-- No field is called like a link. -/
theorem field_of_shapes {s : Json.Shape} (hs : lookup type Json.shapes = some s) :
    s.field.getD "" ≠ "next" ∧ s.field.getD "" ≠ "body" := by
  have hall : ∀ e ∈ Json.shapes, e.2.field.getD "" ≠ "next" ∧ e.2.field.getD "" ≠ "body" := by
    simp [Json.shapes]
  exact hall _ (mem_of_lookup hs)

/-- The field that a block declares, if it does, is written as what is left of its member. -/
theorem field_written (tidy : ∀ e ∈ members, e.2.Tidy) (declared : Option String) (key : String) :
    (if declared.getD "" = key then (declared.bind (field · members)).map FieldValue.toJson else none) =
      if declared = some key then (lookup key members).bind fun v => Json.Fate.field.keep v v.norm
      else none := by
  cases declared with
  | none => simp
  | some name =>
    rw [Option.getD_some, Option.bind_some]
    by_cases h : name = key
    · rw [if_pos h, if_pos (congrArg some h), field_map_toJson tidy, h]
    · rw [if_neg h, if_neg fun heq => h (Option.some.inj heq)]

/-- The members of a known block with its links are in normal form. -/
theorem object_known {s : Json.Shape} {b : Json} (ordered : Ordered members)
    (tidy : ∀ e ∈ members, e.2.Tidy) (htype : Json.typeText? members = some type)
    (hs : lookup type Json.shapes = some s)
    (hnext : v.link? = (lookup "next" members).bind fun v => Json.Fate.link.keep v v.norm)
    (hbody : b.link? =
      if s.hasBody then (lookup "body" members).bind fun v => Json.Fate.link.keep v v.norm else none) :
    Json.object (putLink "next" v (putLink "body" b
      (blockMembers type (s.field.getD "") (s.field.bind (field · members))))) =
      (Json.object members).norm := by
  obtain ⟨hname_next, hname_body⟩ := field_of_shapes hs
  have hshape : Json.shape? members = some s := by
    rw [Json.shape?, htype]
    exact hs
  refine Json.object_eq_norm ordered ordered_links ?_ fun key hkey => ?_
  · rw [lookup_links hname_next hname_body, lookup_blockMembers, htype]
    simp
  · rw [lookup_links hname_next hname_body, lookup_blockMembers, hshape, if_neg (Ne.symm hkey),
      field_written tidy]
    by_cases hn : key = "next"
    · subst hn
      rw [if_pos rfl, hnext]
      rfl
    rw [if_neg (Ne.symm hn)]
    by_cases hb : key = "body"
    · subst hb
      have hfield : s.field ≠ some "body" := fun hf => hname_body (by rw [hf]; rfl)
      rw [if_pos rfl, hbody]
      by_cases hloop : s.hasBody = true
      · simp [Json.fate, hfield, hloop]
      · simp [Json.fate, hfield, hloop, Json.Fate.keep]
    rw [if_neg (Ne.symm hb)]
    by_cases hf : s.field = some key
    · simp [Json.fate, hn, hkey, hf]
    · simp [Json.fate, hn, hkey, hf, hb, Json.Fate.keep]

/-- The members of an unknown block with its link are in normal form. -/
theorem object_unknown (ordered : Ordered members) (hunknown : typeName members ∉ Block.types)
    (hnext : v.link? = (lookup "next" members).bind fun v => Json.Fate.link.keep v v.norm) :
    Json.object (putLink "next" v (insert "type" (.string (typeName members)) (others members))) =
      (Json.object members).norm := by
  have hothers : Ordered (others members) := (ordered.filter _).filter _
  have habsent : Absent "next" (insert "type" (.string (typeName members)) (others members)) :=
    (Absent.erase (absent_erase "next" members) "type").insert (by decide) _
  refine Json.object_eq_norm ordered (ordered_putLink hothers.insert _ _) ?_ fun key hkey => ?_
  · rw [lookup_putLink habsent, lookup_insert, ← typeName_eq]
    simp
  · rw [lookup_putLink habsent, lookup_insert, others, lookup_erase, lookup_erase,
      shape?_of_unknown hunknown, if_neg (Ne.symm hkey), if_neg (Ne.symm hkey)]
    by_cases hn : key = "next"
    · subst hn
      rw [if_pos rfl, hnext]
      rfl
    · rw [if_neg (Ne.symm hn), if_neg (Ne.symm hn)]
      have hfate : Json.fate none key = .verbatim := by simp [Json.fate, hn]
      rw [hfate]
      cases lookup key members <;> rfl

theorem toJson_assemble (ordered : Ordered members) (tidy : ∀ e ∈ members, e.2.Tidy)
    (hnext : next.toJson.link? = (lookup "next" members).bind fun v => Json.Fate.link.keep v v.norm)
    (hbody : ∀ b, body = .ok b →
      b.toJson.link? = (lookup "body" members).bind fun v => Json.Fate.link.keep v v.norm)
    (hread : assemble members next body = .ok c) : c.toJson = (Json.object members).norm := by
  have simple {type : String} {s : Json.Shape} (htype : typeName members = type) (hne : type ≠ "")
      (hs : lookup type Json.shapes = some s) (hloop : s.hasBody = false) :
      Json.object (putLink "next" next.toJson
        (blockMembers type (s.field.getD "") (s.field.bind (field · members)))) =
        (Json.object members).norm :=
    object_known (b := .null) ordered tidy (typeText?_of_typeName htype hne) hs hnext (by rw [hloop]; rfl)
  have loop {type : String} {s : Json.Shape} (htype : typeName members = type) (hne : type ≠ "")
      (hs : lookup type Json.shapes = some s) (hloop : s.hasBody = true) (b : Chain) (hb : body = .ok b) :
      Json.object (putLink "next" next.toJson (putLink "body" b.toJson
        (blockMembers type (s.field.getD "") (s.field.bind (field · members))))) =
        (Json.object members).norm :=
    object_known ordered tidy (typeText?_of_typeName htype hne) hs hnext (by rw [hloop, hbody b hb]; rfl)
  unfold assemble at hread
  split at hread
  case h_1 htype | h_2 htype | h_3 htype | h_4 htype | h_5 htype =>
    cases hread
    exact simple htype (by decide) rfl rfl
  case h_6 htype | h_7 htype =>
    obtain ⟨b, hb, hread⟩ := Json.bind_eq_ok.1 hread
    cases hread
    exact loop htype (by decide) rfl rfl b hb
  case h_8 =>
    cases hread
    exact object_unknown ordered (by simp_all [Block.types]) hnext

end

/-- What a value is read as is written as its normal form. -/
theorem toJson_ofLink {v : Json} {c : Chain} (tidy : v.Tidy) (h : ofLink v = .ok c) : c.toJson = v.norm := by
  induction v using Json.induction generalizing c with
  | null =>
    cases h
    rfl
  | bool | number | string | array => cases h
  | object members ih =>
    obtain ⟨ordered, htidy⟩ := tidy
    have htidy := Json.tidyMembers_iff.1 htidy
    have ih : ∀ e ∈ members, ∀ c, ofLink e.2 = .ok c → c.toJson = e.2.norm :=
      fun e he c hc => ih e he (htidy e he) hc
    rw [ofLink] at h
    obtain ⟨next, hnext, h⟩ := Json.bind_eq_ok.1 h
    exact toJson_assemble ordered htidy (link?_toJson hnext ih) (fun b hb => link?_toJson hb ih) h

end Chain

/-! ## Blocks that nobody knows -/

/-- A block of an unknown type, with such blocks behind it only. -/
inductive Json.IsForeign : Json → Prop
  | object {members : List (String × Json)} {type : String}
      (typed : lookup "type" members = some (.string type)) (unknown : type ∉ Block.types)
      (next : ∀ v, lookup "next" members = some v → v.IsForeign) :
      IsForeign (.object members)

namespace Json

theorem IsForeign.isBlock {v : Json} (h : v.IsForeign) : v.IsBlock := by
  induction h with
  | object typed unknown next ih =>
    refine .object (fun v hv _ => ih v hv) fun kind hkind => ?_
    obtain rfl : _ = kind.type := Json.string.inj (Option.some.inj (typed.symm.trans hkind))
    exact absurd (by cases kind <;> simp [Block.types, LoopKind.type]) unknown

/-- Nothing is left out of a block that nobody knows. -/
theorem IsForeign.norm_eq {v : Json} (h : v.IsForeign) (tidy : v.Tidy) : v.norm = v := by
  induction h with
  | @object members type typed unknown next ih =>
    obtain ⟨ordered, htidy⟩ := tidy
    have htext : typeText? members = some type := by rw [typeText?, typed]
    have hshape : shape? members = none := by
      refine Chain.shape?_of_unknown ?_
      rwa [Chain.typeName_eq, htext]
    refine (object_eq_norm ordered ordered ?_ fun key hkey => ?_).symm
    · rw [typed, htext]
      rfl
    · rw [hshape]
      cases hv : lookup key members with
      | none => rfl
      | some v =>
        rw [Option.bind_some]
        by_cases hn : key = "next"
        · subst hn
          have hnorm : v.norm = v := ih v hv (tidyMembers_iff.1 htidy _ (mem_of_lookup hv))
          rw [hnorm]
          cases next v hv
          rfl
        · have hfate : fate none key = .verbatim := by simp [fate, hn]
          rw [hfate]
          rfl

end Json

namespace Chain

/-- **The normal form.** A chain that a value is read as is written as the normal form of that value, and
the normal form is its own; a block that nobody knows, with such blocks behind it only, is read and
written as it was. -/
theorem writes_normal_form {v : Json} (tidy : v.Tidy) :
    (∀ c, ofJson v = .ok c → c.toJson = v.norm) ∧ v.norm.norm = v.norm ∧
    (v.IsForeign → ∃ c, ofJson v = .ok c ∧ c.toJson = v) := by
  have hnorm : ∀ c, ofJson v = .ok c → c.toJson = v.norm := by
    intro c h
    cases v with
    | null => cases h
    | bool | number | string | array | object => exact toJson_ofLink tidy h
  refine ⟨hnorm, Json.norm_norm tidy, fun hforeign => ?_⟩
  obtain ⟨c, hc⟩ := (ofJson_ok_iff v).2 hforeign.isBlock
  refine ⟨c, hc, ?_⟩
  rw [hnorm c hc]
  exact hforeign.norm_eq tidy

/-- A wait with a note that no wait has, and behind it a block that nobody knows with a null in it: of the
one the note is dropped and the number becomes a binary one, of the other nothing changes. -/
theorem writes_normal_form_of_note :
    (∃ c, ofJson (.object [("next", .object [("seconds", .null), ("type", .string "beep")]),
        ("note", .string "slow"), ("seconds", .number (.integer 5)), ("type", .string "wait")]) = .ok c ∧
      c.toJson = .object [("next", .object [("seconds", .null), ("type", .string "beep")]),
        ("seconds", .number (.binary (.ofInt 5))), ("type", .string "wait")]) ∧
    ∃ c, ofJson (.object [("seconds", .null), ("type", .string "beep")]) = .ok c ∧
      c.toJson = .object [("seconds", .null), ("type", .string "beep")] := by
  have beep : (Json.object [("seconds", .null), ("type", .string "beep")]).Tidy :=
    ⟨by unfold Ordered; decide, trivial, trivial, trivial⟩
  have wait : (Json.object [("next", .object [("seconds", .null), ("type", .string "beep")]),
      ("note", .string "slow"), ("seconds", .number (.integer 5)), ("type", .string "wait")]).Tidy :=
    ⟨by unfold Ordered; decide, beep, trivial, ⟨by decide, by decide⟩, trivial, trivial⟩
  refine ⟨⟨_, rfl, ?_⟩, (writes_normal_form beep).2.2 ?_⟩
  · rw [(writes_normal_form wait).1 _ rfl]
    rfl
  · refine .object rfl (by decide) fun v hv => ?_
    cases hv

end Chain

end BlockPilot
