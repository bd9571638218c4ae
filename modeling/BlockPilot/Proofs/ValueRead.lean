import BlockPilot.Json.Record
import BlockPilot.Proofs.FiniteNumbers
import BlockPilot.Proofs.ValueText

/-!
# Values that are read

A value that a reader gives is in order (`Tidy`) and is not nested more deeply than the reader had room
for (`fine_readValue`), whatever the text was: an integer is one of 64 bits, any other number is finite,
and the members of an object were inserted by their keys. What every step of a walk keeps, the walk keeps; and what every field keeps,
a record keeps.
-/

namespace BlockPilot.Json

/-! ## Walks -/

section

variable {σ : Type} {I : σ → Prop} {fuel : Nat} {first : Bool} {state last : σ} {s rest : List Char}

/-- What every item keeps, all the items keep. -/
theorem walkItems_keeps {step : σ → Reader σ}
    (hstep : ∀ state s next rest, I state → step state s = .ok (next, rest) → I next)
    (hI : I state) (h : walkItems step fuel first state s = .ok (last, rest)) : I last := by
  induction fuel generalizing first state s with
  | zero =>
    unfold walkItems at h
    split at h <;> simp_all
  | succ fuel ih =>
    have onward {s : List Char} (h : (step state s >>= fun item =>
        walkItems step fuel false item.1 item.2) = .ok (last, rest)) : I last := by
      obtain ⟨⟨next, behind⟩, hnext, h⟩ := bind_eq_ok.1 h
      exact ih (hstep state s next behind hI hnext) h
    rw [walkItems.eq_def] at h
    split at h
    · cases h
    · cases h
    · cases h
      exact hI
    · rename_i heq _
      cases heq
      split at h
      · exact onward h
      · split at h
        · split at h
          · cases h
          · cases h
          · exact onward h
        · cases h

/-- What every member keeps, all the members keep. -/
theorem walkMembers_keeps {step : σ → String → Reader σ}
    (hstep : ∀ state key s next rest, I state → step state key s = .ok (next, rest) → I next)
    (hI : I state) (h : walkMembers step fuel first state s = .ok (last, rest)) : I last := by
  induction fuel generalizing first state s with
  | zero =>
    unfold walkMembers at h
    split at h <;> simp_all
  | succ fuel ih =>
    have onward {s : List Char} (h : (readString s >>= fun key => step state key.1 key.2 >>=
        fun value => walkMembers step fuel false value.1 value.2) = .ok (last, rest)) : I last := by
      obtain ⟨⟨key, behind⟩, -, h⟩ := bind_eq_ok.1 h
      obtain ⟨⟨next, behind'⟩, hnext, h⟩ := bind_eq_ok.1 h
      exact ih (hstep state key behind next behind' hI hnext) h
    rw [walkMembers.eq_def] at h
    split at h
    · cases h
    · cases h
    · cases h
      exact hI
    · rename_i heq _
      cases heq
      split at h
      · split at h
        · exact onward h
        · cases h
      · split at h
        · split at h
          · cases h
          · exact onward h
          · cases h
          · cases h
        · cases h

end

/-! ## Numbers -/

theorem gather_lt {n : Nat} (hn : n < UInt64.size) (digits : List Char) :
    (gather n digits).1 < UInt64.size := by
  induction digits generalizing n with
  | nil => exact hn
  | cons c digits ih =>
    rw [gather]
    split
    · rename_i hlt
      exact ih hlt
    · exact hn

section

variable {negative : Bool} {significand dropped : Nat} {exponent : Int} {s rest : List Char}
  {n : JsonNumber}

theorem fits_binaryOf (hs : significand < UInt64.size)
    (h : binaryOf negative significand exponent = .ok n) : n.Fits := by
  obtain ⟨x, hx, h⟩ := bind_eq_ok.1 h
  cases h
  have hfinite : x.isFinite = true := isFinite_of_scaleByTen (Nat.le_of_lt hs) hx
  cases negative
  · exact hfinite
  · exact (Binary64.isFinite_neg x).trans hfinite

theorem fits_readScale (hs : significand < UInt64.size)
    (h : readScale negative significand exponent s = .ok (n, rest)) : n.Fits := by
  unfold readScale at h
  split at h
  · split at h
    · obtain ⟨⟨e, behind⟩, -, h⟩ := bind_eq_ok.1 h
      obtain ⟨m, hm, h⟩ := bind_eq_ok.1 h
      cases h
      exact fits_binaryOf hs hm
    · obtain ⟨m, hm, h⟩ := bind_eq_ok.1 h
      cases h
      exact fits_binaryOf hs hm
  · obtain ⟨m, hm, h⟩ := bind_eq_ok.1 h
    cases h
    exact fits_binaryOf hs hm

theorem fits_wholeNumber (hs : significand < UInt64.size)
    (h : wholeNumber negative significand dropped = .ok n) : n.Fits := by
  have hmin : Int64.minValue.toInt = -9223372036854775808 := by decide
  have hsize : UInt64.size = 18446744073709551616 := rfl
  unfold wholeNumber at h
  split at h
  · exact fits_binaryOf hs h
  · split at h
    · cases h
      exact ⟨by omega, by omega⟩
    · split at h
      · rename_i hrange
        cases h
        exact ⟨hrange.2, by omega⟩
      · cases h
        exact (Binary64.isFinite_neg _).trans (Binary64.isFinite_ofNat (Nat.le_of_lt hs))

/-- An integer that is read is one of 64 bits, and any other number is finite. -/
theorem fits_readNumber (h : readNumber negative s = .ok (n, rest)) : n.Fits := by
  obtain ⟨⟨digits, behind⟩, hw, -⟩ := bind_eq_ok.1 h
  have hgather : (gather 0 digits).1 < UInt64.size := gather_lt (by decide) digits
  rw [readNumber_of_readWhole hw] at h
  unfold readBehind at h
  split at h
  · unfold readFraction at h
    split at h
    · cases h
    · exact fits_readScale (gather_lt hgather _) h
  · split at h
    · exact fits_readScale hgather h
    · obtain ⟨m, hm, h⟩ := bind_eq_ok.1 h
      cases h
      exact fits_wholeNumber hgather hm
  · obtain ⟨m, hm, h⟩ := bind_eq_ok.1 h
    cases h
    exact fits_wholeNumber hgather hm

end

/-! ## Values -/

theorem readWord_value {α : Type} {value v : α} {w s rest : List Char}
    (h : readWord value w s = .ok (v, rest)) : v = value := by
  induction w generalizing s with
  | nil =>
    cases h
    rfl
  | cons d w ih =>
    cases s with
    | nil => cases h
    | cons c s =>
      simp only [readWord] at h
      split at h
      · exact ih h
      · cases h

/-- A value that is in order, and that there is room for. -/
structure Fine (room : Nat) (v : Json) : Prop where
  tidy : v.Tidy
  depth : v.depth ≤ room

theorem fine_string {room : Nat} (s : String) : (Json.string s).Fine room := ⟨trivial, Nat.zero_le _⟩

theorem Fine.array {room : Nat} {items : List Json} (h : ∀ v ∈ items, v.Fine room) :
    (Json.array items).Fine (room + 1) where
  tidy := tidyItems_iff.2 fun v hv => (h v hv).tidy
  depth := by
    have : depthItems items ≤ room := depthItems_le.2 fun v hv => (h v hv).depth
    rw [Json.depth]
    omega

theorem Fine.object {room : Nat} {members : List (String × Json)} (h : Keyed.Every (Fine room) members) :
    (Json.object members).Fine (room + 1) where
  tidy := ⟨h.ordered, tidyMembers_iff.2 fun e he => (h.holds e he).tidy⟩
  depth := by
    have : depthMembers members ≤ room := depthMembers_le.2 fun e he => (h.holds e he).depth
    rw [Json.depth]
    omega

/-- The members of an object have one room less. -/
theorem Fine.members {room : Nat} {members : List (String × Json)} (h : (Json.object members).Fine room) :
    ∃ inner, room = inner + 1 ∧ Keyed.Every (Fine inner) members := by
  obtain ⟨tidy, hdepth⟩ := h
  rw [Json.depth] at hdepth
  refine ⟨room - 1, by omega, tidy.1, fun e he => ⟨tidyMembers_iff.1 tidy.2 e he, ?_⟩⟩
  exact depthMembers_le.1 (by omega : depthMembers members ≤ room - 1) e he

theorem fine_readScalar {room : Nat} {s rest : List Char} {v : Json}
    (h : readScalar s = .ok (v, rest)) : v.Fine room := by
  have number {negative : Bool} {s : List Char} (h : (readNumber negative s >>= fun number =>
      .ok (.number number.1, number.2)) = Except.ok (v, rest)) : v.Fine room := by
    obtain ⟨⟨n, behind⟩, hn, h⟩ := bind_eq_ok.1 h
    cases h
    exact ⟨fits_readNumber hn, Nat.zero_le _⟩
  unfold readScalar at h
  split at h
  · cases h
  · obtain rfl := readWord_value h
    exact ⟨trivial, Nat.zero_le _⟩
  · obtain rfl := readWord_value h
    exact ⟨trivial, Nat.zero_le _⟩
  · obtain rfl := readWord_value h
    exact ⟨trivial, Nat.zero_le _⟩
  · obtain ⟨⟨text, behind⟩, -, h⟩ := bind_eq_ok.1 h
    cases h
    exact fine_string text
  · exact number h
  · split at h
    · exact number h
    · cases h

/-- **What is read.** Every value that is read is in order, and there is room for it. -/
theorem fine_readValue {room : Nat} {s rest : List Char} {v : Json}
    (h : readValue room s = .ok (v, rest)) : v.Fine room := by
  induction room generalizing s rest v with
  | zero =>
    rw [readValue.eq_def] at h
    split at h
    · cases h
    · cases h
    · exact fine_readScalar h
  | succ room ih =>
    rw [readValue.eq_def] at h
    split at h
    · -- every item is in order
      obtain ⟨⟨items, behind⟩, hw, h⟩ := bind_eq_ok.1 h
      cases h
      have hitems : ∀ v ∈ items, v.Fine room := by
        refine walkItems_keeps (I := fun items => ∀ v ∈ items, v.Fine room) ?_ (by simp) hw
        intro items s next rest hI hstep
        obtain ⟨⟨item, behind⟩, hitem, hstep⟩ := bind_eq_ok.1 hstep
        cases hstep
        exact List.forall_mem_cons.2 ⟨ih hitem, hI⟩
      exact .array fun v hv => hitems v (List.mem_reverse.1 hv)
    · -- every member is inserted by its key
      obtain ⟨⟨members, behind⟩, hw, h⟩ := bind_eq_ok.1 h
      cases h
      refine .object (walkMembers_keeps (I := Keyed.Every (Fine room)) ?_ .nil hw)
      intro members key s next rest hI hstep
      obtain ⟨behind, -, hstep⟩ := bind_eq_ok.1 hstep
      obtain ⟨⟨value, behind'⟩, hvalue, hstep⟩ := bind_eq_ok.1 hstep
      cases hstep
      exact hI.insert key (ih hvalue)
    · exact fine_readScalar h

/-! ## Records -/

section

variable {σ : Type} {I : σ → Prop} {start state last : σ} {s rest : List Char}

/-- What every field keeps, the array form keeps. -/
theorem readItems_keeps {length : String} {fields : List (Field σ)} {index : Nat}
    (hfields : ∀ field ∈ fields, ∀ state s next rest,
      I state → field.read state s = .ok (next, rest) → I next)
    (hI : I state) (h : Record.readItems length fields index state s = .ok (last, rest)) : I last := by
  induction fields generalizing index state s with
  | nil =>
    obtain ⟨behind, -, h⟩ := bind_eq_ok.1 h
    cases h
    exact hI
  | cons field fields ih =>
    have hrest : ∀ f ∈ fields, ∀ state s next rest, I state → f.read state s = .ok (next, rest) → I next :=
      fun f hf => hfields f (List.mem_cons_of_mem _ hf)
    have onward {s : List Char} (h : (field.read state s >>= fun value =>
        Record.readItems length fields (index + 1) value.1 value.2) = .ok (last, rest)) : I last := by
      obtain ⟨⟨next, behind⟩, hnext, h⟩ := bind_eq_ok.1 h
      exact ih hrest (hfields field List.mem_cons_self state s next behind hI hnext) h
    unfold Record.readItems at h
    split at h
    · cases h
    · split at h
      · cases h
      · exact ih hrest hI h
    · split at h
      · exact onward h
      · split at h
        · split at h
          · cases h
          · cases h
          · exact onward h
        · cases h

/-- What every field keeps, the record keeps in either form. -/
theorem Record.read_keeps {r : Record σ} {room : Nat}
    (hfields : ∀ field ∈ r.fields, ∀ state s next rest,
      I state → field.read state s = .ok (next, rest) → I next)
    (hstart : I start) (h : r.read room start s = .ok (last, rest)) : I last := by
  -- a member that is no field is skipped
  have member (state : List String × σ) (key : String) (s : List Char) (next : List String × σ)
      (rest : List Char) (hI : I state.2) (h : r.readMember state key s = .ok (next, rest)) : I next.2 := by
    unfold readMember at h
    split at h
    · obtain ⟨behind, -, h⟩ := bind_eq_ok.1 h
      obtain ⟨behind', -, h⟩ := bind_eq_ok.1 h
      cases h
      exact hI
    · rename_i field hfield
      split at h
      · cases h
      · obtain ⟨behind, -, h⟩ := bind_eq_ok.1 h
        obtain ⟨⟨gathered, behind'⟩, hread, h⟩ := bind_eq_ok.1 h
        cases h
        exact hfields field (List.mem_of_find?_eq_some hfield) _ _ _ _ hI hread
  unfold Record.read at h
  split at h
  · split at h
    · cases h
    · obtain ⟨⟨⟨seen, state⟩, behind⟩, hwalk, h⟩ := bind_eq_ok.1 h
      have hstate : I state := walkMembers_keeps (I := fun state => I state.2) member hstart hwalk
      simp only at h
      split at h
      · cases h
      · cases h
        exact hstate
  · split at h
    · cases h
    · exact readItems_keeps hfields hstart h
  · cases h

end

end BlockPilot.Json
