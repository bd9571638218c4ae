import BlockPilot.Program.Json
import BlockPilot.Proofs.ValueRead

/-!
# JSON forms of chains

A chain whose fields hold what JSON can hold (`Regular`) is read back from the value it is written as
(`ofLink_toJson`). Every chain that is read is of this kind, and the value it is written as is nested no
more deeply than the one it was read from (`kept_ofLink`): its links are written at the depth at
which they were read, and members that no block reads are left out.

A chain whose fields hold neither arrays nor objects (`Flat`), as those of the builders do, is written as
a value that is as deep as the chain itself (`Flat.depth_toJson`).
-/

namespace BlockPilot

open Keyed

/-! ## Fields -/

theorem JsonNumber.Fits.toBinary {n : JsonNumber} (h : n.Fits) : n.toBinary.isFinite = true := by
  cases n with
  | integer n =>
    have hmin : Int64.minValue.toInt = -9223372036854775808 := by decide
    have hsize : UInt64.size = 18446744073709551616 := rfl
    obtain ⟨hlow, hhigh⟩ : Int64.minValue.toInt ≤ n ∧ n < UInt64.size := h
    exact Binary64.isFinite_ofInt (by omega)
  | binary x => exact h

namespace FieldValue

/-- A value as it is read from JSON: a number is finite, and any other value is in order and neither
null, nor a number, nor a text. -/
def Regular : FieldValue → Prop
  | .number x => x.isFinite = true
  | .text _ => True
  | .other v => v.Tidy ∧ ofField v = some (.other v)

theorem toJson_number {x : Binary64} (h : x.isFinite = true) :
    (FieldValue.number x).toJson = .number (.binary x) :=
  if_pos h

/-- A field is read back from the value it is written as. -/
theorem Regular.ofField_toJson {f : FieldValue} (h : f.Regular) : ofField f.toJson = some f := by
  cases f with
  | number x =>
    rw [toJson_number h]
    rfl
  | text s => rfl
  | other v => exact h.2

theorem Regular.tidy_toJson {f : FieldValue} (h : f.Regular) : f.toJson.Tidy := by
  cases f with
  | number x =>
    rw [toJson_number h]
    exact h
  | text s => trivial
  | other v => exact h.1

/-- A field that is read is written as a value that is no deeper. -/
theorem regular_of_ofField {room : Nat} {v : Json} {f : FieldValue} (hv : v.Fine room)
    (h : ofField v = some f) : f.Regular ∧ f.toJson.depth ≤ room := by
  cases v with
  | null => cases h
  | number n =>
    cases h
    have hfinite : n.toBinary.isFinite = true := JsonNumber.Fits.toBinary hv.tidy
    refine ⟨hfinite, ?_⟩
    rw [ofJson, toJson_number hfinite]
    exact Nat.zero_le _
  | string s =>
    cases h
    exact ⟨trivial, Nat.zero_le _⟩
  | bool | array | object =>
    cases h
    exact ⟨⟨hv.tidy, rfl⟩, hv.depth⟩

end FieldValue

/-! ## Members -/

section

variable {P : Json → Prop} {name key type : String} {value : Option FieldValue} {v : Json}
  {members : List (String × Json)}

theorem every_putField (h : Every P members) (hv : ∀ f ∈ value, P f.toJson) :
    Every P (putField name value members) := by
  cases value with
  | none => exact h
  | some f => exact h.insert name (hv f rfl)

theorem every_blockMembers (htype : P (.string type)) (hv : ∀ f ∈ value, P f.toJson) :
    Every P (blockMembers type name value) :=
  (every_putField .nil hv).insert "type" htype

/-- A link is a member, or there is none. -/
theorem putLink_cases (name : String) (v : Json) (members : List (String × Json)) :
    v = .null ∧ putLink name v members = members ∨ putLink name v members = insert name v members := by
  cases v with
  | null => exact Or.inl ⟨rfl, rfl⟩
  | bool | number | string | array | object => exact Or.inr rfl

theorem every_putLink (h : Every P members) (hv : P v) : Every P (putLink name v members) := by
  rcases putLink_cases name v members with ⟨-, hput⟩ | hput
  · rwa [hput]
  · rw [hput]
    exact h.insert name hv

theorem absent_blockMembers (hname : name ≠ key) (hkey : "type" ≠ key) :
    Absent key (blockMembers type name value) := by
  refine Absent.insert ?_ hkey _
  cases value with
  | none => simp [putField, Absent]
  | some f => exact Absent.insert (by simp [Absent]) hname _

theorem absent_putLink (h : Absent key members) (hname : name ≠ key) :
    Absent key (putLink name v members) := by
  rcases putLink_cases name v members with ⟨-, hput⟩ | hput
  · rwa [hput]
  · rw [hput]
    exact h.insert hname _

theorem lookup_putLink_of_ne (h : name ≠ key) : lookup key (putLink name v members) = lookup key members := by
  rcases putLink_cases name v members with ⟨-, hput⟩ | hput
  · rw [hput]
  · rw [hput, lookup_insert_of_ne h]

theorem erase_putLink (h : Absent name members) : erase name (putLink name v members) = members := by
  rcases putLink_cases name v members with ⟨-, hput⟩ | hput
  · rw [hput, erase_of_absent h]
  · rw [hput, erase_insert h]

end

namespace Chain

section

variable {name type : String} {value : Option FieldValue} {v : Json} {members : List (String × Json)}

theorem ofMember_eq (name : String) (members : List (String × Json)) :
    ofMember name members = ((lookup name members).map ofLink).getD (.ok .nil) := by
  induction members with
  | nil => rfl
  | cons e members ih =>
    obtain ⟨k, v⟩ := e
    rw [ofMember, lookup_cons, ih]
    split <;> rfl

/-- A link is read from the value that was put in for it; without one there is no link. -/
theorem ofMember_putLink (h : Absent name members) :
    ofMember name (putLink name v members) = ofLink v := by
  rw [ofMember_eq]
  rcases putLink_cases name v members with ⟨rfl, hput⟩ | hput
  · rw [hput, lookup_of_absent h]
    rfl
  · rw [hput, lookup_insert_self]
    rfl

theorem field_blockMembers (hname : "type" ≠ name) (hv : ∀ f ∈ value, f.Regular) :
    field name (blockMembers type name value) = value := by
  rw [field, blockMembers, lookup_insert_of_ne hname]
  cases value with
  | none => rfl
  | some f =>
    rw [putField, lookup_insert_self]
    exact (hv f rfl).ofField_toJson

@[simp] theorem typeName_insert (type : String) (members : List (String × Json)) :
    typeName (insert "type" (.string type) members) = type := by
  simp [typeName]

@[simp] theorem typeName_blockMembers : typeName (blockMembers type name value) = type :=
  typeName_insert ..

end

end Chain

/-! ## Blocks -/

/-- The types of blocks that are known. -/
def Block.types : List String :=
  ["move", "stop", "wait", "set_speed", "print", "repeat", "repeat_counted"]

/-- A block as it is read: its fields are regular, and an unknown block has neither a type nor a link
among its other members. -/
def Block.Regular : Block → Prop
  | .move v | .wait v | .setSpeed v | .print v => ∀ f ∈ v, f.Regular
  | .stop => True
  | .unsupported type members =>
    type ∉ types ∧ Absent "type" members ∧ Absent "next" members ∧ Every Json.Tidy members

namespace Chain

theorem assemble_of_unknown {members : List (String × Json)} {next : Chain}
    {body : Except JsonFault Chain} (h : typeName members ∉ Block.types) :
    assemble members next body = .ok (.block (.unsupported (typeName members) (others members)) next) := by
  simp only [Block.types, List.mem_cons, not_or] at h
  unfold assemble
  split <;> simp_all

/-- A block is put together again from the members it is written as. -/
theorem assemble_toMembers {b : Block} (h : b.Regular) (next : Chain) (body : Except JsonFault Chain) :
    assemble b.toMembers next body = .ok (.block b next) := by
  cases b with
  | move v | wait v | setSpeed v | print v =>
    simp [Block.toMembers, assemble, field_blockMembers _ h]
  | stop => rfl
  | unsupported type members =>
    obtain ⟨htype, habsent, hnext, -⟩ := h
    have hothers : others (insert "type" (.string type) members) = members := by
      rw [others, erase_of_absent (hnext.insert (by decide) _), erase_insert habsent]
    rw [Block.toMembers, assemble_of_unknown (by rwa [typeName_insert]), typeName_insert, hothers]

/-- Nor does it matter that a link follows. -/
theorem assemble_putLink {v : Json} {members : List (String × Json)} (h : Absent "next" members)
    (next : Chain) (body : Except JsonFault Chain) :
    assemble (putLink "next" v members) next body = assemble members next body := by
  have hlookup {key : String} (hkey : "next" ≠ key) :
      lookup key (putLink "next" v members) = lookup key members := lookup_putLink_of_ne hkey
  have hothers : others (putLink "next" v members) = others members := by
    rw [others, others, erase_putLink h, erase_of_absent h]
  simp [assemble, typeName, field, hlookup, hothers]

theorem assemble_of_loop {members : List (String × Json)} {kind : LoopKind}
    (h : typeName members = kind.type) (next body : Chain) :
    assemble members next (.ok body) = .ok (.loop kind (field "times" members) body next) := by
  unfold assemble
  rw [h]
  cases kind <;> rfl

/-- A loop is put together again from the members it is written as. -/
theorem assemble_loop {kind : LoopKind} {times : Option FieldValue} {v : Json}
    (h : ∀ f ∈ times, f.Regular) (next body : Chain) :
    assemble (putLink "body" v (blockMembers kind.type "times" times)) next (.ok body) =
      .ok (.loop kind times body next) := by
  have hlookup {key : String} (hkey : "body" ≠ key) :
      lookup key (putLink "body" v (blockMembers kind.type "times" times)) =
        lookup key (blockMembers kind.type "times" times) := lookup_putLink_of_ne hkey
  have htype : typeName (putLink "body" v (blockMembers kind.type "times" times)) = kind.type := by
    rw [typeName, hlookup (by decide)]
    exact typeName_blockMembers
  have htimes : field "times" (putLink "body" v (blockMembers kind.type "times" times)) = times := by
    rw [field, hlookup (by decide)]
    exact field_blockMembers (by decide) h
  rw [assemble_of_loop htype, htimes]

theorem absent_next_toMembers {b : Block} (h : b.Regular) : Absent "next" b.toMembers := by
  cases b with
  | move | wait | setSpeed | print => exact absent_blockMembers (by decide) (by decide)
  | stop => simp [Block.toMembers, Absent]
  | unsupported type members => exact h.2.2.1.insert (by decide) _

theorem absent_next_loop (kind : LoopKind) (times : Option FieldValue) (v : Json) :
    Absent "next" (putLink "body" v (blockMembers kind.type "times" times)) :=
  absent_putLink (absent_blockMembers (by decide) (by decide)) (by decide)

end Chain

/-- What holds of every value in a block. -/
def Block.Holds (P : Json → Prop) : Block → Prop
  | .move v | .wait v | .setSpeed v | .print v => ∀ f ∈ v, P f.toJson
  | .stop => True
  | .unsupported _ members => Every P members

theorem Block.Holds.every {P : Json → Prop} {b : Block} (h : b.Holds P) (htext : ∀ s, P (.string s)) :
    Every P b.toMembers := by
  cases b with
  | move | wait | setSpeed | print => exact every_blockMembers (htext _) h
  | stop => exact Every.nil.insert "type" (htext _)
  | unsupported type members => exact Every.insert h "type" (htext _)

theorem Block.Regular.tidy {b : Block} (h : b.Regular) : b.Holds Json.Tidy := by
  cases b with
  | move | wait | setSpeed | print => exact fun f hf => (h f hf).tidy_toJson
  | stop => trivial
  | unsupported type members => exact h.2.2.2

/-! ## Chains -/

namespace Chain

/-- A chain as it is read. -/
def Regular : Chain → Prop
  | .nil => True
  | .block b next => b.Regular ∧ next.Regular
  | .loop _ times body next => (∀ f ∈ times, f.Regular) ∧ body.Regular ∧ next.Regular

/-- **Reading back.** A regular chain is read from the value that it is written as. -/
theorem Regular.ofLink_toJson {c : Chain} (h : c.Regular) : ofLink c.toJson = .ok c := by
  induction c with
  | nil => rfl
  | block b next ihnext =>
    obtain ⟨hb, hnext⟩ := h
    have habsent : Absent "next" b.toMembers := absent_next_toMembers hb
    rw [toJson, ofLink, ofMember_putLink habsent, ihnext hnext, Json.ok_bind,
      assemble_putLink habsent]
    exact assemble_toMembers hb next _
  | loop kind times body next ihbody ihnext =>
    obtain ⟨htimes, hbody, hnext⟩ := h
    have hbare : Absent "body" (blockMembers kind.type "times" times) :=
      absent_blockMembers (by decide) (by decide)
    have habsent := absent_next_loop kind times body.toJson
    have hread : ofMember "body" (putLink "next" next.toJson
        (putLink "body" body.toJson (blockMembers kind.type "times" times))) = .ok body := by
      rw [ofMember_eq, lookup_putLink_of_ne (by decide), ← ofMember_eq, ofMember_putLink hbare, ihbody hbody]
    rw [toJson, ofLink, ofMember_putLink habsent, hread, ihnext hnext, Json.ok_bind,
      assemble_putLink habsent]
    exact assemble_loop htimes next body

theorem Regular.tidy_toJson {c : Chain} (h : c.Regular) : c.toJson.Tidy := by
  have object {members : List (String × Json)} (h : Every Json.Tidy members) : (Json.object members).Tidy :=
    ⟨h.ordered, Json.tidyMembers_iff.2 h.holds⟩
  induction c with
  | nil => trivial
  | block b next ihnext =>
    exact object (every_putLink (h.1.tidy.every fun _ => trivial) (ihnext h.2))
  | loop kind times body next ihbody ihnext =>
    obtain ⟨htimes, hbody, hnext⟩ := h
    have hbare : Every Json.Tidy (blockMembers kind.type "times" times) :=
      every_blockMembers trivial fun f hf => (htimes f hf).tidy_toJson
    exact object (every_putLink (every_putLink hbare (ihbody hbody)) (ihnext hnext))

/-! ## Chains that are read -/

/-- A chain that is read: it is regular, and what it is written as needs no more room. -/
structure Kept (room : Nat) (c : Chain) : Prop where
  regular : c.Regular
  fine : c.toJson.Fine room

section

variable {room : Nat} {members : List (String × Json)} {next c : Chain}

theorem kept_nil : Kept room .nil := ⟨trivial, trivial, Nat.zero_le _⟩

theorem kept_block {b : Block} (hb : b.Regular) (hfine : b.Holds (Json.Fine room)) (hnext : Kept room next) :
    Kept (room + 1) (.block b next) where
  regular := ⟨hb, hnext.regular⟩
  fine := .object (every_putLink (hfine.every Json.fine_string) hnext.fine)

theorem kept_loop {kind : LoopKind} {times : Option FieldValue} {body : Chain}
    (htimes : ∀ f ∈ times, f.Regular ∧ f.toJson.Fine room) (hbody : Kept room body) (hnext : Kept room next) :
    Kept (room + 1) (.loop kind times body next) where
  regular := ⟨fun f hf => (htimes f hf).1, hbody.regular, hnext.regular⟩
  fine := by
    have hbare : Every (Json.Fine room) (blockMembers kind.type "times" times) :=
      every_blockMembers (Json.fine_string _) fun f hf => (htimes f hf).2
    exact .object (every_putLink (every_putLink hbare hbody.fine) hnext.fine)

/-- A field that is read from the members of a block. -/
theorem kept_field (h : Every (Json.Fine room) members) (name : String) :
    ∀ f ∈ field name members, f.Regular ∧ f.toJson.Fine room := by
  intro f hf
  obtain ⟨v, hv, hread⟩ := Option.bind_eq_some_iff.1 hf
  obtain ⟨hregular, hdepth⟩ := FieldValue.regular_of_ofField (h.lookup hv) hread
  exact ⟨hregular, hregular.tidy_toJson, hdepth⟩

theorem kept_assemble {body : Except JsonFault Chain} (h : Every (Json.Fine room) members)
    (hnext : Kept room next) (hbody : ∀ c, body = .ok c → Kept room c)
    (hread : assemble members next body = .ok c) : Kept (room + 1) c := by
  have hfield := kept_field h
  -- a block with one field
  have simple {b : Block} (hread : Except.ok (.block b next) = (.ok c : Except JsonFault Chain))
      (hb : b.Regular) (hfine : b.Holds (Json.Fine room)) : Kept (room + 1) c := by
    cases hread
    exact kept_block hb hfine hnext
  have loop {kind : LoopKind} (hread : (body >>= fun body =>
      .ok (.loop kind (field "times" members) body next)) = .ok c) : Kept (room + 1) c := by
    obtain ⟨b, hb, hread⟩ := Json.bind_eq_ok.1 hread
    cases hread
    exact kept_loop (hfield "times") (hbody b hb) hnext
  unfold assemble at hread
  split at hread
  case h_1 | h_3 | h_4 | h_5 =>
    exact simple hread (fun f hf => (hfield _ f hf).1) (fun f hf => (hfield _ f hf).2)
  case h_2 => exact simple hread trivial trivial
  case h_6 | h_7 => exact loop hread
  case h_8 =>
    have hothers : Every (Json.Fine room) (others members) := (h.erase "next").erase "type"
    refine simple hread ⟨?_, absent_erase _ _, (absent_erase _ _).erase _, ?_⟩ hothers
    · simp_all [Block.types]
    · exact ⟨hothers.ordered, fun e he => (hothers.holds e he).tidy⟩

end

/-- **What is read.** A chain that is read from a value is regular, and what it is written as is nested
no more deeply than the value. -/
theorem kept_ofLink {room : Nat} {v : Json} {c : Chain} (hv : v.Fine room) (h : ofLink v = .ok c) :
    Kept room c := by
  induction v using Json.induction generalizing room c with
  | null =>
    cases h
    exact kept_nil
  | bool | number | string | array => cases h
  | object members ih =>
    obtain ⟨inner, rfl, hmembers⟩ := hv.members
    have member {name : String} {c : Chain} (h : ofMember name members = .ok c) : Kept inner c := by
      rw [ofMember_eq] at h
      cases hv : lookup name members with
      | none =>
        rw [hv] at h
        cases h
        exact kept_nil
      | some v =>
        rw [hv] at h
        exact ih _ (mem_of_lookup hv) (hmembers.lookup hv) h
    rw [ofLink] at h
    obtain ⟨next, hnext, h⟩ := Json.bind_eq_ok.1 h
    exact kept_assemble hmembers (member hnext) (fun c hc => member hc) h

/-! ## Depth -/

/-- How deep a chain is: every block is one deeper than the block behind it and than its body. -/
def depth : Chain → Nat
  | .nil => 0
  | .block _ next => 1 + next.depth
  | .loop _ _ body next => 1 + max next.depth body.depth

end Chain

/-- A field as it is read, that is neither an array nor an object. -/
structure FieldValue.Flat (f : FieldValue) : Prop where
  regular : f.Regular
  depth : f.toJson.depth = 0

namespace Chain

/-- A chain as it is read, with neither arrays nor objects in its fields. -/
def Flat : Chain → Prop
  | .nil => True
  | .block b next => b.Regular ∧ b.Holds (·.depth = 0) ∧ next.Flat
  | .loop _ times body next => (∀ f ∈ times, f.Flat) ∧ body.Flat ∧ next.Flat

theorem Flat.regular {c : Chain} (h : c.Flat) : c.Regular := by
  induction c with
  | nil => trivial
  | block b next ihnext => exact ⟨h.1, ihnext h.2.2⟩
  | loop kind times body next ihbody ihnext =>
    exact ⟨fun f hf => (h.1 f hf).regular, ihbody h.2.1, ihnext h.2.2⟩

theorem depthMembers_putLink {name : String} {members : List (String × Json)} (h : Absent name members)
    (v : Json) : Json.depthMembers (putLink name v members) = max v.depth (Json.depthMembers members) := by
  rcases putLink_cases name v members with ⟨rfl, hput⟩ | hput
  · rw [hput, Json.depth, Nat.zero_max]
  · rw [hput, Json.depthMembers_insert h]

theorem depthMembers_flat {members : List (String × Json)} (h : Every (·.depth = 0) members) :
    Json.depthMembers members = 0 :=
  Nat.le_zero.1 (Json.depthMembers_le.2 fun e he => Nat.le_of_eq (h.holds e he))

/-- **Depth.** A chain without arrays and objects in its fields is written as a value of its own depth. -/
theorem Flat.depth_toJson {c : Chain} (h : c.Flat) : c.toJson.depth = c.depth := by
  induction c with
  | nil => rfl
  | block b next ihnext =>
    obtain ⟨hb, hflat, hnext⟩ := h
    have hmembers : Json.depthMembers b.toMembers = 0 := depthMembers_flat (hflat.every fun _ => rfl)
    rw [toJson, Json.depth, depthMembers_putLink (absent_next_toMembers hb), hmembers, ihnext hnext, depth,
      Nat.max_zero]
  | loop kind times body next ihbody ihnext =>
    obtain ⟨htimes, hbody, hnext⟩ := h
    have hmembers : Json.depthMembers (blockMembers kind.type "times" times) = 0 :=
      depthMembers_flat (every_blockMembers rfl fun f hf => (htimes f hf).depth)
    rw [toJson, Json.depth, depthMembers_putLink (absent_next_loop _ _ _),
      depthMembers_putLink (absent_blockMembers (by decide) (by decide)), hmembers, ihnext hnext, ihbody hbody,
      depth, Nat.max_zero]

end Chain

end BlockPilot
