import BlockPilot.Program.Json
import BlockPilot.Proofs.PlainText
import BlockPilot.Run.Call

/-!
# Numbers as texts

A field tells a number from the text that it is shown with in no case but that of the negative zero, which
is shown without its sign (`Field.text_stands_for_number`).

An integer in the message of a block is a number before it is shown. Its text is that of an integer that
becomes the same number: the one that was written up to two to the 53 (`integer_printed`), and perhaps
another beyond that (`integer_misprinted`).
-/

namespace BlockPilot

namespace Field

/-- Two values that mean the same in every field, or are refused for the same reason. -/
structure Alike (f g : Option FieldValue) : Prop where
  direction : direction f = direction g
  duration : duration f = duration g
  speed : speed f = speed g
  times : ∀ default, times default f = times default g
  message : message f = message g

section

variable {f g : FieldValue}

/-- A number is taken from a value and its text only. -/
theorem finite_congr (hnumber : f.toNumber? = g.toNumber?) (htext : f.toText = g.toText) (kind : BlockKind)
    (name : FieldName) : finite kind name f = finite kind name g := by
  rw [finite, finite, hnumber, htext]

theorem whole_congr (hnumber : f.toNumber? = g.toNumber?) (htext : f.toText = g.toText) (kind : BlockKind)
    (name : FieldName) : whole kind name f = whole kind name g := by
  rw [whole, whole, finite_congr hnumber htext, htext]

theorem duration_congr (hnumber : f.toNumber? = g.toNumber?) (htext : f.toText = g.toText) :
    duration (some f) = duration (some g) := by
  rw [duration, duration, required, required, Json.ok_bind, Json.ok_bind, finite_congr hnumber htext]

theorem speed_congr (hnumber : f.toNumber? = g.toNumber?) (htext : f.toText = g.toText) :
    speed (some f) = speed (some g) := by
  rw [speed, speed, required, required, Json.ok_bind, Json.ok_bind, whole_congr hnumber htext]

theorem times_congr (hnumber : f.toNumber? = g.toNumber?) (htext : f.toText = g.toText)
    (default : Option ℕ) : times default (some f) = times default (some g) := by
  rw [times, times, whole_congr hnumber htext]

end

/-- **A number and its text.** In every field a number means the same as the text that it is shown with, a
negative zero apart. -/
theorem text_stands_for_number {x : Binary64} (hx : x ≠ .zero true) :
    Alike (some (.number x)) (some (.text (FieldValue.number x).toText)) := by
  have hnumber :
      (FieldValue.number x).toNumber? = (FieldValue.text (FieldValue.number x).toText).toNumber? := by
    rw [FieldValue.toText, FieldValue.toNumber?, FieldValue.toNumber?, FieldValue.trim_numberText hx,
      FieldValue.ofText?_numberText hx]
  constructor
  · -- a number is no direction, and its text names none
    have hnone := FieldValue.direction_numberText hx
    rw [direction, direction, required, required, Json.ok_bind, Json.ok_bind, FieldValue.toText]
    simp only [hnone, FieldValue.toText]
  · exact duration_congr hnumber rfl
  · exact speed_congr hnumber rfl
  · exact times_congr hnumber rfl
  · rfl

theorem text_stands_for_number_of_tenth :
    Binary64.ofRatio false 1 10 ≠ .zero true ∧
      Alike (some (.number (.ofRatio false 1 10)))
        (some (.text (FieldValue.number (.ofRatio false 1 10)).toText)) :=
  have hne : Binary64.ofRatio false 1 10 ≠ .zero true := by decide +kernel
  ⟨hne, text_stands_for_number hne⟩

/-- The error of a loop shows a negative zero with its sign. -/
example : ¬Alike (some (.number (.zero true))) (some (.text "0")) := by
  intro h
  have := h.times none
  revert this
  decide +kernel

end Field

/-! ## Integers as numbers -/

namespace Binary64

/-- One is a power of two, which is not to be computed. -/
theorem exists_unitsPerOne : ∃ u, u = 1074 ∧ unitsPerOne = 2 ^ u := ⟨1074, rfl, by decide +kernel⟩

theorem roundHalfEven_mul (a : ℕ) {b : ℕ} (hb : 0 < b) : roundHalfEven (a * b) b = a := by
  rw [roundHalfEven, Nat.mul_div_cancel _ hb, Nat.mul_mod_left]
  exact if_pos hb

/-- An integer of 64 bits becomes a number whose value is an integer, the same one if it is small enough. -/
theorem ofRatio_whole {n : ℕ} (h : n ≤ UInt64.size) (negative : Bool) :
    ∃ mantissa scale canonical k, ofRatio negative n 1 = finite negative mantissa scale canonical ∧
      k * unitsPerOne = mantissa * 2 ^ scale ∧ (0 < n → 0 < mantissa) ∧ (n < 2 ^ 53 → k = n) := by
  have hlarge : n * unitsPerOne < largest :=
    Nat.lt_of_le_of_lt (Nat.mul_le_mul_right _ h) (by decide +kernel)
  obtain ⟨cut, hcut⟩ : ∃ cut, bitLength (n * unitsPerOne) - 53 = cut := ⟨_, rfl⟩
  have hfitting : Fitting (n * unitsPerOne) cut := by
    rw [← hcut]
    exact fitting_bitLength hlarge
  obtain ⟨mantissa, scale, canonical, hpack, hsize⟩ :=
    hfitting.pack (le_roundHalfEven ..) (roundHalfEven_le ..) negative
  have hratio : ofRatio negative n 1 = finite negative mantissa scale canonical := by
    rw [← hpack]
    simp only [ofRatio, Nat.div_one, hcut, Nat.one_mul, Nat.pow_eq]
  have hpos : 0 < n → 0 < mantissa := by
    intro hn
    have hunits : 0 < unitsPerOne := by exact_mod_cast unitsPerOne_pos
    have hlow := hfitting.pow_le (k := 0) (Nat.mul_pos hn hunits)
    have := Nat.mul_le_mul_right (2 ^ cut) (le_roundHalfEven (n * unitsPerOne) (2 ^ cut))
    rw [← hsize] at this
    exact Nat.pos_of_mul_pos_right (Nat.lt_of_lt_of_le (by decide) (Nat.le_trans hlow this))
  obtain ⟨u, hu, hunits⟩ := exists_unitsPerOne
  by_cases hfine : cut ≤ u
  · -- no digit is cut off
    have hsplit : n * unitsPerOne = n * 2 ^ (u - cut) * 2 ^ cut := by
      rw [hunits, Nat.mul_assoc, ← Nat.pow_add, Nat.sub_add_cancel hfine]
    have hround : roundHalfEven (n * unitsPerOne) (2 ^ cut) = n * 2 ^ (u - cut) := by
      rw [hsplit, roundHalfEven_mul _ (Nat.pow_pos (by decide))]
    refine ⟨mantissa, scale, canonical, n, hratio, ?_, hpos, fun _ => rfl⟩
    rw [hsize, hround, hsplit]
  · have hwhole : 2 ^ cut = 2 ^ (cut - u) * unitsPerOne := by
      rw [hunits, ← Nat.pow_add, Nat.sub_add_cancel (Nat.le_of_not_le hfine)]
    refine ⟨mantissa, scale, canonical, roundHalfEven (n * unitsPerOne) (2 ^ cut) * 2 ^ (cut - u), hratio, ?_,
      hpos, fun hn => absurd ?_ hfine⟩
    · rw [hsize, Nat.mul_assoc, ← hwhole]
    · have : bitLength (n * unitsPerOne) ≤ 53 + u := by
        rw [bitLength_le, hunits, Nat.pow_add]
        exact Nat.mul_lt_mul_of_pos_right hn (Nat.pow_pos (by decide))
      omega

/-- Below two to the 53 no two integers are rounded to the same number. -/
theorem eq_of_roundsTo {mantissa scale n k : ℕ} (canonical : IsCanonical mantissa scale)
    (hn : n * unitsPerOne = mantissa * 2 ^ scale) (hsmall : n < 2 ^ 53)
    (hk : RoundsTo mantissa scale (steps scale k)) : k = n := by
  have hfine : 2 ^ scale ≤ unitsPerOne := by
    obtain ⟨u, -, hunits⟩ := exists_unitsPerOne
    rw [hunits] at hn ⊢
    refine Nat.pow_le_pow_right (by decide) (Nat.le_of_not_lt fun hlt => ?_)
    have hfull : 2 ^ 52 ≤ mantissa := canonical.2.2.resolve_left (by omega)
    have : 2 ^ 53 * 2 ^ u ≤ mantissa * 2 ^ scale := by
      calc 2 ^ 53 * 2 ^ u = 2 ^ 52 * 2 ^ (u + 1) := by ring
        _ ≤ mantissa * 2 ^ scale := Nat.mul_le_mul hfull (Nat.pow_le_pow_right (by decide) hlt)
    rw [← hn] at this
    exact absurd (Nat.le_of_mul_le_mul_right this (Nat.pow_pos (by decide))) (Nat.not_le.2 hsmall)
  have hstep : (0 : ℚ) < 2 ^ scale := by positivity
  have hunits := unitsPerOne_pos
  have hfine : (2 : ℚ) ^ scale ≤ unitsPerOne := by exact_mod_cast hfine
  have hexact : (n : ℚ) * unitsPerOne = mantissa * 2 ^ scale := by exact_mod_cast hn
  obtain ⟨hlow, hhigh⟩ := abs_le.1 hk.isNearest.near
  have hlow := mul_le_mul_of_nonneg_right hlow (le_of_lt hstep)
  have hhigh := mul_le_mul_of_nonneg_right hhigh (le_of_lt hstep)
  rw [sub_mul, ← hexact, steps, div_mul_cancel₀ _ hstep.ne'] at hlow hhigh
  -- integers that are not the same are one apart at least
  have apart {i j : ℕ} (h : i < j) : (i : ℚ) * unitsPerOne + unitsPerOne ≤ j * unitsPerOne := by
    have hsucc : ((i : ℚ) + 1) ≤ j := by exact_mod_cast h
    have := mul_le_mul_of_nonneg_right hsucc (le_of_lt hunits)
    linarith
  rcases Nat.lt_trichotomy k n with hlt | heq | hgt
  · have := apart hlt
    linarith
  · exact heq
  · have := apart hgt
    linarith

end Binary64

/-! ## Integers as they are shown -/

section

variable {negative : Bool} {mantissa scale n : ℕ}

open Binary64 FieldValue

theorem toInt?_of_units (canonical : IsCanonical mantissa scale)
    (hn : n * unitsPerOne = mantissa * 2 ^ scale) :
    (finite negative mantissa scale canonical).toInt? = some (if negative then -(n : ℤ) else n) := by
  have hn : (n : ℚ) * unitsPerOne = ((mantissa * Nat.pow 2 scale : ℕ) : ℚ) := by exact_mod_cast hn
  rw [toInt?_eq_some, value?_eq_some]
  refine ⟨_, rfl, ?_⟩
  cases negative with
  | false =>
    rw [if_neg Bool.false_ne_true, if_neg Bool.false_ne_true, Int.cast_natCast, Int.cast_natCast, hn]
  | true =>
    rw [if_pos rfl, if_pos rfl, Int.cast_neg, Int.cast_neg, Int.cast_natCast, Int.cast_natCast, neg_mul, hn]

/-- Zeros behind the digits of an integer are digits of a larger one. -/
theorem decimalText_append_zeros (hn : 0 < n) (e : ℕ) :
    decimalText n ++ List.replicate e '0' = decimalText (n * 10 ^ e) := by
  induction e with
  | zero => simp
  | succ e ih =>
    have hpos : 0 < n * 10 ^ e := Nat.mul_pos hn (Nat.pow_pos (by decide))
    have hzero : Nat.toDigits 10 0 = ['0'] := rfl
    rw [List.replicate_succ', ← List.append_assoc, ih, decimalText, decimalText, ← hzero,
      Nat.toDigits_append_toDigits (by decide) hpos (by decide)]
    congr 1
    ring

theorem natAbs_signed (k : ℕ) : (if negative then -(k : ℤ) else k).natAbs = k := by
  cases negative
  · exact Int.natAbs_natCast k
  · exact (Int.natAbs_neg _).trans (Int.natAbs_natCast k)

theorem decide_signed {k : ℕ} (hk : negative = true → 0 < k) :
    decide ((if negative then -(k : ℤ) else k) < 0) = negative := by
  cases negative with
  | false => exact decide_eq_false (by rw [if_neg Bool.false_ne_true]; omega)
  | true =>
    have := hk rfl
    exact decide_eq_true (by rw [if_pos rfl]; omega)

/-- An integer that is rounded to a number gives it. -/
theorem ofInt_of_roundsTo {k : ℕ} (canonical : IsCanonical mantissa scale)
    (hsigned : finite negative mantissa scale canonical ≠ zero true)
    (hk : RoundsTo mantissa scale (steps scale k)) :
    ofInt (if negative then -(k : ℤ) else k) = finite negative mantissa scale canonical := by
  have hpos : negative = true → 0 < k := by
    rintro rfl
    rw [Nat.pos_iff_ne_zero]
    rintro rfl
    -- only the zeros are that small
    have hmantissa : mantissa = 0 := by
      have hlow := hk.low
      have hroom := @roomBelow_le mantissa scale
      rw [Nat.cast_zero, steps, zero_mul, zero_div] at hlow
      have : (mantissa : ℚ) < 1 := by linarith
      exact Nat.lt_one_iff.1 (by exact_mod_cast this)
    subst hmantissa
    obtain rfl : scale = 0 := canonical.2.2.resolve_right (by decide)
    exact hsigned rfl
  rw [ofInt, decide_signed hpos, natAbs_signed]
  refine ofRatio_of_roundsTo canonical negative Nat.one_pos ?_
  rwa [Nat.cast_one, div_one]

/-- A number that is an integer is shown as one that is rounded to it. -/
theorem exists_shown (negative : Bool) (canonical : IsCanonical mantissa scale)
    (hn : n * unitsPerOne = mantissa * 2 ^ scale) :
    ∃ k : ℕ, RoundsTo mantissa scale (steps scale k) ∧
      numberText (finite negative mantissa scale canonical) =
        String.ofList (Json.integerText (if negative then -(k : ℤ) else k)) := by
  have hexact : RoundsTo mantissa scale (steps scale n) := roundsTo_exact (by exact_mod_cast hn)
  rw [numberText, toInt?_of_units canonical hn]
  simp only [natAbs_signed]
  by_cases hsmall : n < wholeLimit
  · exact ⟨n, hexact, if_pos hsmall⟩
  · rw [if_neg hsmall]
    have hpos : 0 < mantissa := by
      have hunits : 0 < unitsPerOne := by exact_mod_cast unitsPerOne_pos
      have hn_pos : 0 < n := Nat.lt_of_lt_of_le (by decide) (not_lt.1 hsmall)
      have hsize : 0 < n * unitsPerOne := Nat.mul_pos hn_pos hunits
      rw [hn] at hsize
      exact Nat.pos_of_mul_pos_right hsize
    obtain ⟨d, hd⟩ : ∃ d, Decimal.shortest Layout.plain.tie mantissa scale = d := ⟨_, rfl⟩
    have hrounds := Decimal.roundsTo_shortest canonical hpos Layout.plain.tie
    have hexponent := Decimal.exponent_shortest_nonneg canonical hpos Layout.plain.tie hn
    have hdigits := (position_of_roundsTo canonical hpos hrounds).1
    rw [hd] at hrounds hexponent hdigits
    obtain ⟨e, he⟩ := Int.eq_ofNat_of_zero_le hexponent
    refine ⟨d.digits * 10 ^ e, ?_, ?_⟩
    · rw [Decimal.value, he, zpow_natCast] at hrounds
      push_cast
      exact hrounds
    · have hplain : Layout.plain.positional d = decimalText (d.digits * 10 ^ e) := by
        rw [Layout.positional, if_pos hexponent, he, Int.toNat_natCast, decimalText_append_zeros hdigits]
        exact List.append_nil _
      have hk : 0 < d.digits * 10 ^ e := Nat.mul_pos hdigits (Nat.pow_pos (by decide))
      rw [toPlain_finite, if_neg (Nat.ne_of_gt hpos), hd, hplain, integerText_eq, decide_signed fun _ => hk,
        natAbs_signed]

/-- What is shown of an integer of 64 bits is an integer that becomes the same number, and the same integer
up to two to the 53. -/
theorem numberText_ofInt {k : ℤ} (hk : k.natAbs ≤ UInt64.size) :
    ∃ n : ℤ, numberText (ofInt k) = String.ofList (Json.integerText n) ∧ ofInt n = ofInt k ∧
      (k.natAbs ≤ 2 ^ 53 → n = k) := by
  -- at two to the 53 the next integer is rounded to the same number, but it is farther away
  by_cases hedge : k = 9007199254740992 ∨ k = -9007199254740992
  · refine ⟨k, ?_, rfl, fun _ => rfl⟩
    rcases hedge with rfl | rfl <;> decide +kernel
  obtain ⟨mantissa, scale, canonical, m, hratio, hm, hpos, hsame⟩ := ofRatio_whole hk (decide (k < 0))
  obtain ⟨n, hrounds, htext⟩ := exists_shown (decide (k < 0)) canonical hm
  have hsigned : finite (decide (k < 0)) mantissa scale canonical ≠ zero true := by
    intro heq
    rw [zero, Binary64.finite.injEq] at heq
    have hneg := of_decide_eq_true heq.1
    have := hpos (by omega)
    omega
  refine ⟨_, by rw [ofInt, hratio, htext], ?_, fun hsmall => ?_⟩
  · rw [ofInt_of_roundsTo canonical hsigned hrounds, ofInt, hratio]
  · have hlt : k.natAbs < 2 ^ 53 := by omega
    have hn : n = k.natAbs := by
      rw [← hsame hlt]
      exact eq_of_roundsTo canonical hm (by rwa [hsame hlt]) hrounds
    by_cases hneg : k < 0
    · rw [decide_eq_true hneg, if_pos rfl]
      omega
    · rw [decide_eq_false hneg, if_neg Bool.false_ne_true]
      omega

end

/-! ## Integers in messages -/

/-- When it is run, the first block of the chain says the text and does nothing else. -/
def Chain.Says (c : Chain) (text : String) : Prop :=
  ∀ controller call, call.stops controller = false →
    Call.perform controller call (.head c) =
      ([.emitted ⟨.info, text⟩], call.push [.pause controller.pacing.nanoseconds])

theorem Chain.Says.unique {c : Chain} {s t : String} (hs : c.Says s) (ht : c.Says t) : s = t := by
  have hgoes : (Call.ofTasks []).stops (.new (.recorder (.new 0)) (.new 0) 0) = false := rfl
  have heq := congrArg Prod.fst ((hs _ _ hgoes).symm.trans (ht _ _ hgoes))
  simpa using heq

/-- Every print block that is loaded from an object, wherever that stands, says the text if its message is the
integer. -/
def PrintsAs (k : ℤ) (text : String) : Prop :=
  ∀ members c, Keyed.lookup "type" members = some (.string "print") →
    Keyed.lookup "message" members = some (.number (.integer k)) →
    Chain.ofJson (.object members) = .ok c → c.Says text

/-- A print block shows its number. -/
theorem printsAs_numberText (k : ℤ) : PrintsAs k (FieldValue.numberText (.ofInt k)) := by
  intro members c htype hmessage hc controller call hgoes
  obtain ⟨next, -, hassemble⟩ := Json.bind_eq_ok.1 hc
  have hfield : Chain.field "message" members = some (.number (.ofInt k)) := by
    rw [Chain.field, hmessage]
    rfl
  have htypeName : Chain.typeName members = "print" := by
    rw [Chain.typeName, htype]
  rw [Chain.assemble, htypeName] at hassemble
  simp only [hfield] at hassemble
  cases hassemble
  have hmeaning : (Block.print (some (.number (.ofInt k)))).meaning =
      .ok (FieldValue.numberText (.ofInt k), .nothing) := rfl
  rw [Call.perform, Call.doHead, hgoes, hmeaning]
  rfl

/-- **Integers in messages.** An integer of 64 bits that is written as the message of a print block is shown
as an integer that becomes the same number, and exactly as it was written up to two to the 53. -/
theorem integer_printed {k : ℤ} (hlow : Int64.minValue.toInt ≤ k) (hhigh : k < UInt64.size) :
    (∀ room rest, Json.Ends rest →
      Json.readValue room (Json.integerText k ++ rest) = .ok (.number (.integer k), rest)) ∧
    ∃ n : ℤ, PrintsAs k (String.ofList (Json.integerText n)) ∧ Binary64.ofInt n = .ofInt k ∧
      (k.natAbs ≤ 2 ^ 53 → n = k) := by
  have hsize : k.natAbs ≤ UInt64.size := by
    have : Int64.minValue.toInt = -9223372036854775808 := by decide
    rw [UInt64.size] at hhigh ⊢
    omega
  refine ⟨fun room rest ends => Json.readValue_integerText hlow hhigh room ends, ?_⟩
  obtain ⟨n, htext, hn⟩ := numberText_ofInt hsize
  refine ⟨n, ?_, hn⟩
  rw [← htext]
  exact printsAs_numberText k

/-- A message of up to two to the 53 on its way from the text to the event. -/
theorem integer_printed_of_three_digits :
    Json.readValue 1 ['-', '2', '7', '3', '\x7d'] = .ok (.number (.integer (-273)), ['\x7d']) ∧
      Chain.Says (.block (.print (some (.number (.ofInt (-273))))) .nil) "-273" := by
  obtain ⟨hread, n, hprints, -, hsame⟩ := integer_printed (k := -273) (by decide) (by decide)
  obtain rfl := hsame (by decide)
  refine ⟨hread 1 ['\x7d'] (.cons rfl (by decide) (by decide) (by decide)), ?_⟩
  exact hprints [("message", .number (.integer (-273))), ("type", .string "print")] _ rfl rfl rfl

/-- Two to the 53 and one is shown without the one. -/
theorem integer_misprinted :
    ¬∀ k : ℤ, Int64.minValue.toInt ≤ k → k < UInt64.size →
      PrintsAs k (String.ofList (Json.integerText k)) := by
  intro h
  have hwritten := h 9007199254740993 (by decide) (by decide)
    [("message", .number (.integer 9007199254740993)), ("type", .string "print")] _ rfl rfl rfl
  have hshown := printsAs_numberText 9007199254740993
    [("message", .number (.integer 9007199254740993)), ("type", .string "print")] _ rfl rfl rfl
  have hsame := hwritten.unique hshown
  revert hsame
  decide +kernel

end BlockPilot
