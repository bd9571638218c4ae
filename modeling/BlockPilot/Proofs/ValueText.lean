import BlockPilot.Proofs.KeyedOrder
import BlockPilot.Proofs.ScalarText

/-!
# Texts of values

The compact and the pretty text of a value differ in their spaces only: both are `spacedOnto`. A value
that is in order (`Tidy`) and whose binary numbers are given back by their own texts is given back by
both texts, unless it is nested more deeply than there is room for; then the fault is just that
(`givenBack`).
-/

namespace BlockPilot

/-- Whether a number is one that JSON texts hold: an integer fits in 64 bits, signed or unsigned, and
any other number is finite. -/
def JsonNumber.Fits : JsonNumber → Prop
  | .integer n => Int64.minValue.toInt ≤ n ∧ n < UInt64.size
  | .binary x => x.isFinite = true

namespace Json

/-! ## Induction -/

/-- What holds of scalars, and of arrays and objects if it holds of all that is in them, holds of every
value. -/
theorem induction {P : Json → Prop} (null : P .null) (bool : ∀ b, P (.bool b))
    (number : ∀ n, P (.number n)) (string : ∀ s, P (.string s))
    (array : ∀ items, (∀ v ∈ items, P v) → P (.array items))
    (object : ∀ members : List (String × Json), (∀ e ∈ members, P e.2) → P (.object members)) (v : Json) :
    P v := by
  refine @Json.rec P (fun items => ∀ v ∈ items, P v) (fun members => ∀ e ∈ members, P e.2)
    (fun e => P e.2) null bool number string array object ?_ ?_ ?_ ?_ ?_ v
  · simp
  · intro v items hv hitems w hw
    rcases List.mem_cons.1 hw with rfl | hw
    · exact hv
    · exact hitems w hw
  · simp
  · intro e members he hmembers d hd
    rcases List.mem_cons.1 hd with rfl | hd
    · exact he
    · exact hmembers d hd
  · exact fun _ _ hv => hv

/-! ## Measures of values -/

mutual

/-- How many arrays and objects are open at most at the same time. -/
def depth : Json → Nat
  | .array items => 1 + depthItems items
  | .object members => 1 + depthMembers members
  | .null | .bool _ | .number _ | .string _ => 0

def depthItems : List Json → Nat
  | [] => 0
  | v :: items => max (depth v) (depthItems items)

def depthMembers : List (String × Json) → Nat
  | [] => 0
  | (_, v) :: members => max (depth v) (depthMembers members)

end

mutual

/-- The binary numbers in a value. -/
def numbers : Json → List Binary64
  | .number (.binary x) => [x]
  | .array items => numbersItems items
  | .object members => numbersMembers members
  | .null | .bool _ | .number (.integer _) | .string _ => []

def numbersItems : List Json → List Binary64
  | [] => []
  | v :: items => numbers v ++ numbersItems items

def numbersMembers : List (String × Json) → List Binary64
  | [] => []
  | (_, v) :: members => numbers v ++ numbersMembers members

end

mutual

/-- Numbers are ones that texts hold, and objects have their members in the order of their keys. -/
def Tidy : Json → Prop
  | .number n => n.Fits
  | .array items => TidyItems items
  | .object members => Keyed.Ordered members ∧ TidyMembers members
  | .null | .bool _ | .string _ => True

def TidyItems : List Json → Prop
  | [] => True
  | v :: items => Tidy v ∧ TidyItems items

def TidyMembers : List (String × Json) → Prop
  | [] => True
  | (_, v) :: members => Tidy v ∧ TidyMembers members

end

theorem depthItems_le {items : List Json} {n : Nat} :
    depthItems items ≤ n ↔ ∀ v ∈ items, v.depth ≤ n := by
  induction items with
  | nil => simp [depthItems]
  | cons v items ih => rw [depthItems, Nat.max_le, ih, List.forall_mem_cons]

theorem depthMembers_le {members : List (String × Json)} {n : Nat} :
    depthMembers members ≤ n ↔ ∀ e ∈ members, e.2.depth ≤ n := by
  induction members with
  | nil => simp [depthMembers]
  | cons e members ih => rw [depthMembers, Nat.max_le, ih, List.forall_mem_cons]

/-- A member that is put in is one value more to measure. -/
theorem depthMembers_insert {name : String} {members : List (String × Json)} (h : Keyed.Absent name members)
    (v : Json) : depthMembers (Keyed.insert name v members) = max v.depth (depthMembers members) := by
  induction members with
  | nil => simp [Keyed.insert, depthMembers]
  | cons e members ih =>
    obtain ⟨k, w⟩ := e
    have hk : name ≠ k := Ne.symm (h _ List.mem_cons_self)
    rw [Keyed.insert, if_neg hk]
    split
    · rfl
    · rw [depthMembers, depthMembers, ih fun e he => h e (by simp [he])]
      omega

theorem mem_numbersItems {items : List Json} {x : Binary64} :
    x ∈ numbersItems items ↔ ∃ v ∈ items, x ∈ v.numbers := by
  induction items with
  | nil => simp [numbersItems]
  | cons v items ih => simp [numbersItems, ih]

theorem mem_numbersMembers {members : List (String × Json)} {x : Binary64} :
    x ∈ numbersMembers members ↔ ∃ e ∈ members, x ∈ e.2.numbers := by
  induction members with
  | nil => simp [numbersMembers]
  | cons e members ih => simp [numbersMembers, ih]

theorem tidyItems_iff {items : List Json} : TidyItems items ↔ ∀ v ∈ items, v.Tidy := by
  induction items with
  | nil => simp [TidyItems]
  | cons v items ih => simp [TidyItems, ih]

theorem tidyMembers_iff {members : List (String × Json)} :
    TidyMembers members ↔ ∀ e ∈ members, e.2.Tidy := by
  induction members with
  | nil => simp [TidyMembers]
  | cons e members ih => simp [TidyMembers, ih]

/-! ## Spaces between -/

/-- The spaces in a text: those in front of an item or of the end of a list at some level, and those
behind a colon. -/
structure Spacing where
  line : Nat → List Char
  colon : List Char
  blank_line : ∀ level, ∀ c ∈ line level, isSpace c = true
  blank_colon : ∀ c ∈ colon, isSpace c = true

namespace Spacing

def compact : Spacing := ⟨fun _ => [], [], by simp, by simp⟩

def pretty : Spacing where
  line level := '\n' :: List.replicate (2 * level) ' '
  colon := [' ']
  blank_line level c hc := by
    rcases List.mem_cons.1 hc with rfl | hc
    · rfl
    · obtain rfl : c = ' ' := List.eq_of_mem_replicate hc
      rfl
  blank_colon := by simp [isSpace]

end Spacing

mutual

/-- The text of a value at a level with some spacing, in front of `rest`. -/
def spacedOnto (sp : Spacing) (level : Nat) (rest : List Char) : Json → List Char
  | .null => 'n' :: 'u' :: 'l' :: 'l' :: rest
  | .bool b => boolText b ++ rest
  | .number n => numberText n ++ rest
  | .string s => stringText s ++ rest
  | .array [] => '[' :: ']' :: rest
  | .array (item :: items) =>
    '[' :: (sp.line (level + 1) ++ spacedOnto sp (level + 1) (spacedItems sp level rest items) item)
  | .object [] => '\x7b' :: '\x7d' :: rest
  | .object ((key, v) :: members) =>
    '\x7b' :: (sp.line (level + 1) ++ (stringText key ++ ':' :: (sp.colon ++
      spacedOnto sp (level + 1) (spacedMembers sp level rest members) v)))

/-- The items after the first, with the bracket. -/
def spacedItems (sp : Spacing) (level : Nat) (rest : List Char) : List Json → List Char
  | [] => sp.line level ++ ']' :: rest
  | item :: items =>
    ',' :: (sp.line (level + 1) ++ spacedOnto sp (level + 1) (spacedItems sp level rest items) item)

/-- The members after the first, with the brace. -/
def spacedMembers (sp : Spacing) (level : Nat) (rest : List Char) : List (String × Json) → List Char
  | [] => sp.line level ++ '\x7d' :: rest
  | (key, v) :: members =>
    ',' :: (sp.line (level + 1) ++ (stringText key ++ ':' :: (sp.colon ++
      spacedOnto sp (level + 1) (spacedMembers sp level rest members) v)))

end

mutual

/-- The compact text has no spaces. -/
theorem compactOnto_eq (level : Nat) (rest : List Char) (v : Json) :
    compactOnto rest v = spacedOnto .compact level rest v := by
  cases v with
  | null | bool | number | string => rfl
  | array items =>
    cases items with
    | nil => rfl
    | cons item items =>
      rw [compactOnto, spacedOnto, compactOnto_eq (level + 1), compactItems_eq level]
      rfl
  | object members =>
    cases members with
    | nil => rfl
    | cons e members =>
      rw [compactOnto, spacedOnto, compactOnto_eq (level + 1), compactMembers_eq level]
      rfl

theorem compactItems_eq (level : Nat) (rest : List Char) (items : List Json) :
    compactItems rest items = spacedItems .compact level rest items := by
  cases items with
  | nil => rfl
  | cons item items =>
    rw [compactItems, spacedItems, compactOnto_eq (level + 1), compactItems_eq level]
    rfl

theorem compactMembers_eq (level : Nat) (rest : List Char) (members : List (String × Json)) :
    compactMembers rest members = spacedMembers .compact level rest members := by
  cases members with
  | nil => rfl
  | cons e members =>
    rw [compactMembers, spacedMembers, compactOnto_eq (level + 1), compactMembers_eq level]
    rfl

end

mutual

/-- The pretty text has a line for every item. -/
theorem prettyOnto_eq (level : Nat) (rest : List Char) (v : Json) :
    prettyOnto level rest v = spacedOnto .pretty level rest v := by
  cases v with
  | null | bool | number | string => rfl
  | array items =>
    cases items with
    | nil => rfl
    | cons item items =>
      rw [prettyOnto, spacedOnto, prettyOnto_eq, prettyItems_eq]
      rfl
  | object members =>
    cases members with
    | nil => rfl
    | cons e members =>
      rw [prettyOnto, spacedOnto, prettyOnto_eq, prettyMembers_eq]
      rfl

theorem prettyItems_eq (level : Nat) (rest : List Char) (items : List Json) :
    prettyItems level rest items = spacedItems .pretty level rest items := by
  cases items with
  | nil => rfl
  | cons item items =>
    rw [prettyItems, spacedItems, prettyOnto_eq, prettyItems_eq]
    rfl

theorem prettyMembers_eq (level : Nat) (rest : List Char) (members : List (String × Json)) :
    prettyMembers level rest members = spacedMembers .pretty level rest members := by
  cases members with
  | nil => rfl
  | cons e members =>
    rw [prettyMembers, spacedMembers, prettyOnto_eq, prettyMembers_eq]
    rfl

end

/-! ## Lists that are opened -/

/-- The items of an array behind its bracket. -/
def openItems (sp : Spacing) (level : Nat) (rest : List Char) : List Json → List Char
  | [] => ']' :: rest
  | item :: items =>
    sp.line (level + 1) ++ spacedOnto sp (level + 1) (spacedItems sp level rest items) item

/-- The members of an object behind its brace. -/
def openMembers (sp : Spacing) (level : Nat) (rest : List Char) : List (String × Json) → List Char
  | [] => '\x7d' :: rest
  | (key, v) :: members =>
    sp.line (level + 1) ++ (stringText key ++ ':' :: (sp.colon ++
      spacedOnto sp (level + 1) (spacedMembers sp level rest members) v))

section

variable {sp : Spacing} {level : Nat} {rest : List Char}

theorem spacedOnto_array (items : List Json) :
    spacedOnto sp level rest (.array items) = '[' :: openItems sp level rest items := by
  cases items <;> rfl

theorem spacedOnto_object (members : List (String × Json)) :
    spacedOnto sp level rest (.object members) = '\x7b' :: openMembers sp level rest members := by
  cases members <;> rfl

/-! ## Lengths -/

theorem length_spacedItems {items : List Json}
    (h : ∀ v ∈ items, ∀ level rest, rest.length ≤ (spacedOnto sp level rest v).length) :
    rest.length + items.length < (spacedItems sp level rest items).length := by
  induction items with
  | nil =>
    simp only [spacedItems, List.length_append, List.length_cons, List.length_nil]
    omega
  | cons item items ih =>
    have htail := ih fun v hv => h v (by simp [hv])
    have hitem := h item (by simp) (level + 1) (spacedItems sp level rest items)
    simp only [spacedItems, List.length_cons, List.length_append]
    omega

theorem length_spacedMembers {members : List (String × Json)}
    (h : ∀ e ∈ members, ∀ level rest, rest.length ≤ (spacedOnto sp level rest e.2).length) :
    rest.length + members.length < (spacedMembers sp level rest members).length := by
  induction members with
  | nil =>
    simp only [spacedMembers, List.length_append, List.length_cons, List.length_nil]
    omega
  | cons e members ih =>
    have htail := ih fun v hv => h v (by simp [hv])
    have hitem := h e (by simp) (level + 1) (spacedMembers sp level rest members)
    simp only [spacedMembers, List.length_cons, List.length_append]
    omega

theorem length_openItems {items : List Json}
    (h : ∀ v ∈ items, ∀ level rest, rest.length ≤ (spacedOnto sp level rest v).length) :
    rest.length + items.length ≤ (openItems sp level rest items).length := by
  cases items with
  | nil => simp [openItems]
  | cons item items =>
    have htail : rest.length + items.length < (spacedItems sp level rest items).length :=
      length_spacedItems fun v hv => h v (by simp [hv])
    have hitem := h item (by simp) (level + 1) (spacedItems sp level rest items)
    simp only [openItems, List.length_cons, List.length_append]
    omega

theorem length_openMembers {members : List (String × Json)}
    (h : ∀ e ∈ members, ∀ level rest, rest.length ≤ (spacedOnto sp level rest e.2).length) :
    rest.length + members.length ≤ (openMembers sp level rest members).length := by
  cases members with
  | nil => simp [openMembers]
  | cons e members =>
    have htail : rest.length + members.length < (spacedMembers sp level rest members).length :=
      length_spacedMembers fun e he => h e (by simp [he])
    have hitem := h e (by simp) (level + 1) (spacedMembers sp level rest members)
    simp only [openMembers, List.length_cons, List.length_append]
    omega

/-- A text is no longer without a value in front of it. -/
theorem length_le_spacedOnto (v : Json) (level : Nat) (rest : List Char) :
    rest.length ≤ (spacedOnto sp level rest v).length := by
  induction v using Json.induction generalizing level rest with
  | null => exact Nat.le_add_right _ 4
  | bool | number | string => simp [spacedOnto]
  | array items ih =>
    have : rest.length + items.length ≤ (openItems sp level rest items).length := length_openItems ih
    rw [spacedOnto_array, List.length_cons]
    omega
  | object members ih =>
    have : rest.length + members.length ≤ (openMembers sp level rest members).length :=
      length_openMembers ih
    rw [spacedOnto_object, List.length_cons]
    omega

/-! ## What a text begins with -/

/-- Every binary number in a value is given back by its text. -/
def Exact (v : Json) : Prop := ∀ x ∈ v.numbers, x.ReadsBack

theorem spacedOnto_head (sp : Spacing) {v : Json} (h : v.Exact) (level : Nat) (rest : List Char) :
    ∃ c t, spacedOnto sp level rest v = c :: t ∧ isSpace c = false ∧ c ≠ ']' := by
  cases v with
  | null => exact ⟨_, _, rfl, rfl, by decide⟩
  | bool b => cases b <;> exact ⟨_, _, rfl, rfl, by decide⟩
  | number n =>
    cases n with
    | integer n =>
      obtain ⟨c, t, htext, hs, -, hc, -⟩ := integerText_head n
      exact ⟨c, t ++ rest, by simp [spacedOnto, numberText, htext], hs, hc⟩
    | binary x =>
      obtain ⟨c, t, htext, hs, hc⟩ := Binary64.ReadsBack.head (h x (by simp [numbers]))
      exact ⟨c, t ++ rest, by simp [spacedOnto, numberText, htext], hs, hc⟩
  | string s => exact ⟨_, _, rfl, rfl, by decide⟩
  | array items => exact ⟨_, _, spacedOnto_array items, rfl, by decide⟩
  | object members => exact ⟨_, _, spacedOnto_object members, rfl, by decide⟩

theorem skipSpace_blank {b : List Char} (hb : ∀ c ∈ b, isSpace c = true) (s : List Char) :
    skipSpace (b ++ s) = skipSpace s :=
  List.dropWhile_append_of_pos hb

theorem skipSpace_cons {c : Char} (hc : isSpace c = false) (s : List Char) :
    skipSpace (c :: s) = c :: s := by
  simp [skipSpace, hc]

theorem readValue_blank {b : List Char} (hb : ∀ c ∈ b, isSpace c = true) (room : Nat) (s : List Char) :
    readValue room (b ++ s) = readValue room s := by
  rw [readValue.eq_def, skipSpace_blank hb, readValue.eq_def room s]

/-- Nothing but spaces and a character that goes on no number. -/
theorem Ends.blank {b : List Char} (hb : ∀ c ∈ b, isSpace c = true) {s : List Char} (hs : Ends s) :
    Ends (b ++ s) := by
  cases b with
  | nil => exact hs
  | cons c b =>
    have hc : isSpace c = true := hb c (by simp)
    have : c = ' ' ∨ c = '\n' ∨ c = '\t' ∨ c = '\r' := by simpa [isSpace, or_assoc] using hc
    rcases this with rfl | rfl | rfl | rfl <;> exact .cons rfl (by decide) (by decide) (by decide)

theorem ends_spacedItems (sp : Spacing) (level : Nat) (rest : List Char) (items : List Json) :
    Ends (spacedItems sp level rest items) := by
  cases items with
  | nil => exact .blank (sp.blank_line level) (.cons rfl (by decide) (by decide) (by decide))
  | cons => exact .cons rfl (by decide) (by decide) (by decide)

theorem ends_spacedMembers (sp : Spacing) (level : Nat) (rest : List Char)
    (members : List (String × Json)) : Ends (spacedMembers sp level rest members) := by
  cases members with
  | nil => exact .blank (sp.blank_line level) (.cons rfl (by decide) (by decide) (by decide))
  | cons => exact .cons rfl (by decide) (by decide) (by decide)

end

/-! ## Walking along lists -/

section

variable {σ : Type} {fuel : Nat} {first : Bool} {state : σ} {s t u : List Char} {c : Char}

theorem walkItems_end {step : σ → Reader σ} (h : skipSpace s = ']' :: t) :
    walkItems step (fuel + 1) first state s = .ok (state, t) := by
  simp [walkItems.eq_def, h]

theorem walkItems_first {step : σ → Reader σ} (h : skipSpace s = c :: t) (hc : c ≠ ']') :
    walkItems step (fuel + 1) true state s =
      step state (c :: t) >>= fun (state, rest) => walkItems step fuel false state rest := by
  rw [walkItems.eq_def, h]
  simp

theorem walkItems_next {step : σ → Reader σ} (h : skipSpace s = ',' :: t) (ht : skipSpace t = c :: u)
    (hc : c ≠ ']') :
    walkItems step (fuel + 1) false state s =
      step state (c :: u) >>= fun (state, rest) => walkItems step fuel false state rest := by
  rw [walkItems.eq_def, h]
  simp [ht, hc]

theorem walkMembers_end {step : σ → String → Reader σ} (h : skipSpace s = '\x7d' :: t) :
    walkMembers step (fuel + 1) first state s = .ok (state, t) := by
  simp [walkMembers.eq_def, h]

theorem walkMembers_first {step : σ → String → Reader σ} (h : skipSpace s = '"' :: t) :
    walkMembers step (fuel + 1) true state s =
      readString t >>= fun (key, rest) => step state key rest >>= fun (state, rest) =>
        walkMembers step fuel false state rest := by
  rw [walkMembers.eq_def, h]
  simp

theorem walkMembers_next {step : σ → String → Reader σ} (h : skipSpace s = ',' :: t)
    (ht : skipSpace t = '"' :: u) :
    walkMembers step (fuel + 1) false state s =
      readString u >>= fun (key, rest) => step state key rest >>= fun (state, rest) =>
        walkMembers step fuel false state rest := by
  rw [walkMembers.eq_def, h]
  simp [ht]

end

/-- What an entry gives and what is left behind it. -/
def leaving {σ : Type} (rest : List Char) (result : Except JsonFault σ) :
    Except JsonFault (σ × List Char) :=
  result.map fun state => (state, rest)

theorem leaving_bind {σ τ : Type} (rest : List Char) (result : Except JsonFault σ)
    (f : σ × List Char → Except JsonFault τ) :
    (leaving rest result >>= f) = result >>= fun state => f (state, rest) := by
  cases result <;> rfl

theorem leaving_map_bind {σ τ : Type} (rest : List Char) (result : Except JsonFault σ)
    (f : σ → Except JsonFault τ) :
    leaving rest (result >>= f) = result >>= fun state => leaving rest (f state) := by
  cases result <;> rfl

section

variable {sp : Spacing} {level : Nat} {rest : List Char} {σ ι : Type}

/-- The items of an array are read one after the other. -/
theorem walkItems_spaced {value : ι → Json} {step : σ → Reader σ} {next : σ → ι → Except JsonFault σ}
    {items : List ι} (hexact : ∀ i ∈ items, (value i).Exact)
    (hstep : ∀ i ∈ items, ∀ state rest, Ends rest →
      step state (spacedOnto sp (level + 1) rest (value i)) = leaving rest (next state i))
    {fuel : Nat} (hfuel : items.length < fuel) (state : σ) :
    walkItems step fuel false state (spacedItems sp level rest (items.map value)) =
      leaving rest (items.foldlM next state) := by
  induction items generalizing fuel state with
  | nil =>
    obtain ⟨fuel, rfl⟩ : ∃ n, fuel = n + 1 := ⟨fuel - 1, by simp at hfuel; omega⟩
    exact walkItems_end (skipSpace_blank (sp.blank_line level) _)
  | cons i items ih =>
    obtain ⟨fuel, rfl⟩ : ∃ n, fuel = n + 1 := ⟨fuel - 1, by simp at hfuel; omega⟩
    obtain ⟨c, t, htext, hc, hb⟩ := spacedOnto_head sp (hexact i (by simp)) (level + 1)
      (spacedItems sp level rest (items.map value))
    have hskip : skipSpace (sp.line (level + 1) ++ spacedOnto sp (level + 1)
        (spacedItems sp level rest (items.map value)) (value i)) = c :: t := by
      rw [skipSpace_blank (sp.blank_line _), htext, skipSpace_cons hc]
    rw [List.map_cons, spacedItems, walkItems_next (skipSpace_cons rfl _) hskip hb, ← htext,
      hstep i (by simp) state _ (ends_spacedItems ..), leaving_bind, List.foldlM_cons, leaving_map_bind]
    refine bind_congr fun state => ?_
    exact ih (fun j hj => hexact j (by simp [hj])) (fun j hj => hstep j (by simp [hj]))
      (Nat.lt_of_succ_lt_succ hfuel) state

/-- An array is read from its bracket on. -/
theorem walkItems_open {value : ι → Json} {step : σ → Reader σ} {next : σ → ι → Except JsonFault σ}
    {items : List ι} (hexact : ∀ i ∈ items, (value i).Exact)
    (hstep : ∀ i ∈ items, ∀ state rest, Ends rest →
      step state (spacedOnto sp (level + 1) rest (value i)) = leaving rest (next state i))
    (rest : List Char) (state : σ) :
    walkItems step ((openItems sp level rest (items.map value)).length + 1) true state
        (openItems sp level rest (items.map value)) =
      leaving rest (items.foldlM next state) := by
  have hfuel : rest.length + (items.map value).length ≤
      (openItems sp level rest (items.map value)).length :=
    length_openItems fun v _ => length_le_spacedOnto v
  cases items with
  | nil => exact walkItems_end (skipSpace_cons rfl _)
  | cons i items =>
    obtain ⟨c, t, htext, hc, hb⟩ := spacedOnto_head sp (hexact i (by simp)) (level + 1)
      (spacedItems sp level rest (items.map value))
    have hskip : skipSpace (openItems sp level rest ((i :: items).map value)) = c :: t := by
      rw [List.map_cons, openItems, skipSpace_blank (sp.blank_line _), htext, skipSpace_cons hc]
    rw [walkItems_first hskip hb, ← htext, hstep i (by simp) state _ (ends_spacedItems ..),
      leaving_bind, List.foldlM_cons, leaving_map_bind]
    refine bind_congr fun state => ?_
    refine walkItems_spaced (fun j hj => hexact j (by simp [hj])) (fun j hj => hstep j (by simp [hj]))
      ?_ state
    simp only [List.map_cons, List.length_cons, List.length_map] at hfuel ⊢
    omega

/-- The members of an object are read one after the other. -/
theorem walkMembers_spaced {step : σ → String → Reader σ}
    {next : σ → String × Json → Except JsonFault σ} {members : List (String × Json)}
    (hstep : ∀ e ∈ members, ∀ state rest, Ends rest →
      step state e.1 (':' :: (sp.colon ++ spacedOnto sp (level + 1) rest e.2)) =
        leaving rest (next state e)) {fuel : Nat} (hfuel : members.length < fuel) (state : σ) :
    walkMembers step fuel false state (spacedMembers sp level rest members) =
      leaving rest (members.foldlM next state) := by
  induction members generalizing fuel state with
  | nil =>
    obtain ⟨fuel, rfl⟩ : ∃ n, fuel = n + 1 := ⟨fuel - 1, by simp at hfuel; omega⟩
    exact walkMembers_end (skipSpace_blank (sp.blank_line level) _)
  | cons e members ih =>
    obtain ⟨fuel, rfl⟩ : ∃ n, fuel = n + 1 := ⟨fuel - 1, by simp at hfuel; omega⟩
    obtain ⟨key, v⟩ := e
    have hskip : skipSpace (sp.line (level + 1) ++ (stringText key ++ ':' :: (sp.colon ++
        spacedOnto sp (level + 1) (spacedMembers sp level rest members) v))) =
          '"' :: (key.toList.flatMap escapeChar ++ '"' :: ':' :: (sp.colon ++
            spacedOnto sp (level + 1) (spacedMembers sp level rest members) v)) := by
      rw [skipSpace_blank (sp.blank_line _), stringText]
      simp [skipSpace, isSpace]
    rw [spacedMembers, walkMembers_next (skipSpace_cons rfl _) hskip, readString_stringText, ok_bind]
    simp only
    rw [hstep _ List.mem_cons_self state _ (ends_spacedMembers ..), leaving_bind, List.foldlM_cons,
      leaving_map_bind]
    refine bind_congr fun state => ?_
    exact ih (fun d hd => hstep d (by simp [hd])) (Nat.lt_of_succ_lt_succ hfuel) state

/-- An object is read from its brace on. -/
theorem walkMembers_open {step : σ → String → Reader σ}
    {next : σ → String × Json → Except JsonFault σ} {members : List (String × Json)}
    (hstep : ∀ e ∈ members, ∀ state rest, Ends rest →
      step state e.1 (':' :: (sp.colon ++ spacedOnto sp (level + 1) rest e.2)) =
        leaving rest (next state e)) (rest : List Char) (state : σ) :
    walkMembers step ((openMembers sp level rest members).length + 1) true state
        (openMembers sp level rest members) =
      leaving rest (members.foldlM next state) := by
  have hfuel : rest.length + members.length ≤ (openMembers sp level rest members).length :=
    length_openMembers fun e _ => length_le_spacedOnto e.2
  cases members with
  | nil => exact walkMembers_end (skipSpace_cons rfl _)
  | cons e members =>
    obtain ⟨key, v⟩ := e
    have hskip : skipSpace (openMembers sp level rest ((key, v) :: members)) =
        '"' :: (key.toList.flatMap escapeChar ++ '"' :: ':' :: (sp.colon ++
          spacedOnto sp (level + 1) (spacedMembers sp level rest members) v)) := by
      rw [openMembers, skipSpace_blank (sp.blank_line _), stringText]
      simp [skipSpace, isSpace]
    rw [walkMembers_first hskip, readString_stringText, ok_bind]
    simp only
    rw [hstep _ List.mem_cons_self state _ (ends_spacedMembers ..), leaving_bind, List.foldlM_cons,
      leaving_map_bind]
    refine bind_congr fun state => ?_
    refine walkMembers_spaced (fun d hd => hstep d (by simp [hd])) ?_ state
    simp only [List.length_cons] at hfuel ⊢
    omega

end

/-! ## Reading values back -/

/-- Entries that each pass a test are put one after the other; the first that does not is a fault. -/
theorem foldlM_guard {ε σ ι : Type} (p : ι → Prop) [DecidablePred p] (put : σ → ι → σ) (fault : ε)
    (items : List ι) (state : σ) :
    items.foldlM (fun state i => if p i then .ok (put state i) else Except.error fault) state =
      if ∀ i ∈ items, p i then .ok (items.foldl put state) else Except.error fault := by
  induction items generalizing state with
  | nil => simp [pure, Except.pure]
  | cons i items ih =>
    rw [List.foldlM_cons]
    by_cases hi : p i
    · simp [hi, ih]
    · simp [hi, bind, Except.bind]

/-- A value, if there is room enough for it. -/
def within (room : Nat) (v : Json) : Except JsonFault Json :=
  if v.depth ≤ room then .ok v else .error .tooDeep

/-- An item, put in front of the items before it. -/
def itemStep (room : Nat) (items : List Json) : Reader (List Json) := fun s =>
  readValue room s >>= fun (item, rest) => .ok (item :: items, rest)

/-- A member, put among the members before it. -/
def memberStep (room : Nat) (members : List (String × Json)) (key : String) :
    Reader (List (String × Json)) := fun s =>
  readColon s >>= fun rest => readValue room rest >>= fun (value, rest) =>
    .ok (Keyed.insert key value members, rest)

theorem readValue_array (room : Nat) (s : List Char) :
    readValue (room + 1) ('[' :: s) =
      walkItems (itemStep room) (s.length + 1) true [] s >>= fun (items, rest) =>
        .ok (.array items.reverse, rest) := by
  rw [readValue.eq_def, skipSpace_cons rfl]
  rfl

theorem readValue_object (room : Nat) (s : List Char) :
    readValue (room + 1) ('\x7b' :: s) =
      walkMembers (memberStep room) (s.length + 1) true [] s >>= fun (members, rest) =>
        .ok (.object members, rest) := by
  rw [readValue.eq_def, skipSpace_cons rfl]
  rfl

/-- A text gives a value back with any spacing and any room that is enough for it. -/
def GivenBack (sp : Spacing) (v : Json) : Prop :=
  ∀ room level rest, Ends rest → readValue room (spacedOnto sp level rest v) = leaving rest (within room v)

section

variable {sp : Spacing} {level : Nat} {rest : List Char}

theorem readColon_spaced (v : Json) :
    readColon (':' :: (sp.colon ++ spacedOnto sp level rest v)) =
      .ok (sp.colon ++ spacedOnto sp level rest v) := by
  rw [readColon, skipSpace_cons rfl]
  rfl

theorem GivenBack.array {items : List Json} (h : ∀ v ∈ items, GivenBack sp v)
    (back : ∀ v ∈ items, v.Exact) : GivenBack sp (.array items) := by
  intro room level rest _
  rw [spacedOnto_array]
  cases room with
  | zero =>
    have hdepth : ¬ 1 + depthItems items ≤ 0 := by omega
    rw [readValue.eq_def, skipSpace_cons rfl, within, depth, if_neg hdepth]
    rfl
  | succ room =>
    have hstep : ∀ v ∈ items, ∀ state rest, Ends rest →
        itemStep room state (spacedOnto sp (level + 1) rest v) =
          leaving rest (if v.depth ≤ room then .ok (v :: state) else .error .tooDeep) := by
      intro v hv state rest ends
      rw [itemStep, h v hv room _ rest ends, leaving_bind, within]
      split <;> rfl
    have hwalk := walkItems_open back hstep rest []
    rw [List.map_id', foldlM_guard] at hwalk
    have hdepth : 1 + depthItems items ≤ room + 1 ↔ ∀ v ∈ items, v.depth ≤ room := by
      rw [Nat.add_comm 1, Nat.add_le_add_iff_right, depthItems_le]
    rw [readValue_array, hwalk, leaving_bind, within, depth]
    simp only [hdepth]
    split
    · simp [leaving, Except.map]
    · rfl

theorem GivenBack.object {members : List (String × Json)} (h : ∀ e ∈ members, GivenBack sp e.2)
    (ordered : Keyed.Ordered members) : GivenBack sp (.object members) := by
  intro room level rest _
  rw [spacedOnto_object]
  cases room with
  | zero =>
    have hdepth : ¬ 1 + depthMembers members ≤ 0 := by omega
    rw [readValue.eq_def, skipSpace_cons rfl, within, depth, if_neg hdepth]
    rfl
  | succ room =>
    have hstep : ∀ e ∈ members, ∀ state rest, Ends rest →
        memberStep room state e.1 (':' :: (sp.colon ++ spacedOnto sp (level + 1) rest e.2)) =
          leaving rest
            (if e.2.depth ≤ room then .ok (Keyed.insert e.1 e.2 state) else .error .tooDeep) := by
      intro e he state rest ends
      rw [memberStep, readColon_spaced, ok_bind, readValue_blank sp.blank_colon,
        h e he room _ rest ends, leaving_bind, within]
      split <;> rfl
    have hwalk := walkMembers_open hstep rest []
    rw [foldlM_guard, Keyed.foldl_insert ordered] at hwalk
    have hdepth : 1 + depthMembers members ≤ room + 1 ↔ ∀ e ∈ members, e.2.depth ≤ room := by
      rw [Nat.add_comm 1, Nat.add_le_add_iff_right, depthMembers_le]
    rw [readValue_object, hwalk, leaving_bind, within, depth]
    simp only [hdepth]
    split <;> rfl

/-- **Reading back.** A value that is in order and whose numbers are given back is given back by its
text with any spacing, if there is room enough for it. -/
theorem givenBack {v : Json} (tidy : v.Tidy) (back : v.Exact) : GivenBack sp v := by
  induction v using Json.induction with
  | null => exact fun _ _ _ _ => readValue_scalar rfl (by decide) (by decide) _ _
  | bool b => cases b <;> exact fun _ _ _ _ => readValue_scalar rfl (by decide) (by decide) _ _
  | number n =>
    cases n with
    | integer n => exact fun room _ _ ends => readValue_integerText tidy.1 tidy.2 room ends
    | binary x => exact fun room _ _ ends => Binary64.ReadsBack.readValue (back x (by simp [numbers])) room ends
  | string s => exact fun room _ rest _ => readValue_stringText s room rest
  | array items ih =>
    have hback : ∀ v ∈ items, v.Exact := fun v hv x hx => back x (mem_numbersItems.2 ⟨v, hv, hx⟩)
    exact .array (fun v hv => ih v hv (tidyItems_iff.1 tidy v hv) (hback v hv)) hback
  | object members ih =>
    have hback : ∀ e ∈ members, e.2.Exact := fun e he x hx => back x (mem_numbersMembers.2 ⟨e, he, hx⟩)
    exact .object (fun e he => ih e he (tidyMembers_iff.1 tidy.2 e he) (hback e he)) tidy.1

end

end Json

end BlockPilot
