import BlockPilot.Program.FieldValue
import BlockPilot.Robot.Command
import BlockPilot.Proofs.LetterCase
import BlockPilot.Proofs.ScalarText
import BlockPilot.Proofs.ShortestDecimal

/-!
# Plain texts of numbers

The text of a finite number is a sign and a *numeral*, digits with a point among them (`Numeral`). A numeral
is read as the decimal that it was written for, whichever of the three layouts it has
(`unsigned?_positional`), and the decimal is one that is rounded to the number. So every number is given back
by its plain text (`Binary64.ofText?_toPlain`), and every one but the negative zero by the text that it is
shown with (`FieldValue.ofText?_numberText`). That text has no white space and names no direction.
-/

namespace BlockPilot

/-! ## Digits -/

theorem isDigit_iff {c : Char} : isDigit c = true ↔ 48 ≤ c.toNat ∧ c.toNat ≤ 57 := by
  rw [isDigit, decide_eq_true_iff, Char.le_def, Char.le_def, UInt32.le_iff_toNat_le, UInt32.le_iff_toNat_le]
  exact Iff.rfl

theorem ofDigits_eq (ds : List Char) : ofDigits ds = Nat.ofDigitChars 10 ds 0 := rfl

@[simp] theorem ofDigits_decimalText (n : ℕ) : ofDigits (decimalText n) = n := by
  rw [ofDigits_eq, decimalText, Nat.ofDigitChars_ten_toDigits]

/-- Zeros behind the digits multiply their number. -/
theorem ofDigits_append_zeros (ds : List Char) (k : ℕ) :
    ofDigits (ds ++ List.replicate k '0') = ofDigits ds * 10 ^ k := by
  rw [ofDigits_eq, Nat.ofDigitChars_append, Nat.ofDigitChars_replicate_zero, Nat.mul_comm]
  rfl

/-- Zeros in front of the digits do not change it. -/
theorem ofDigits_zeros_append (k : ℕ) (ds : List Char) :
    ofDigits (List.replicate k '0' ++ ds) = ofDigits ds := by
  rw [ofDigits_eq, Nat.ofDigitChars_append, Nat.ofDigitChars_replicate_zero, Nat.mul_zero]
  rfl

theorem isDigit_zeros {k : ℕ} {c : Char} (h : c ∈ List.replicate k '0') : isDigit c = true := by
  obtain rfl := List.eq_of_mem_replicate h
  rfl

theorem length_decimalText {n : ℕ} (h : 0 < n) : (decimalText n).length = digitCount n := by
  rw [digitCount, if_neg (Nat.ne_of_gt h)]
  rfl

/-! ## Numerals -/

/-- Digits with points behind the first, as a number is shown without its sign. -/
structure Numeral (body : List Char) : Prop where
  begins : ∃ c t, body = c :: t ∧ isDigit c = true
  chars : ∀ c ∈ body, isDigit c = true ∨ c = '.'

/-- A numeral behind its sign. -/
def signed (negative : Bool) (body : List Char) : List Char :=
  (if negative then ['-'] else []) ++ body

theorem numeral_of_digits {ds t : List Char} (hne : ds ≠ []) (hds : ∀ c ∈ ds, isDigit c = true)
    (ht : ∀ c ∈ t, isDigit c = true ∨ c = '.') : Numeral (ds ++ t) := by
  constructor
  · cases ds with
    | nil => exact absurd rfl hne
    | cons c ds => exact ⟨c, ds ++ t, rfl, hds c List.mem_cons_self⟩
  · intro c hc
    rcases List.mem_append.1 hc with hc | hc
    · exact Or.inl (hds c hc)
    · exact ht c hc

section

variable {body : List Char} {negative : Bool}

theorem Numeral.takeSign (h : Numeral body) : takeSign (signed negative body) = (negative, body) := by
  obtain ⟨c, t, rfl, hc⟩ := h.begins
  have hminus : c ≠ '-' := by
    rintro rfl
    cases hc
  have hplus : c ≠ '+' := by
    rintro rfl
    cases hc
  cases negative with
  | true => rfl
  | false =>
    unfold BlockPilot.takeSign signed
    split
    · rename_i heq
      exact absurd (List.cons.inj heq).1 hminus
    · rename_i heq
      exact absurd (List.cons.inj heq).1 hplus
    · rfl

theorem toLower_of_isDigit {c : Char} (h : isDigit c = true) : c.toLower = c := by
  have h := isDigit_iff.1 h
  refine dif_neg ?_
  rintro ⟨hge, -⟩
  have : 65 ≤ c.toNat := UInt32.le_iff_toNat_le.1 hge
  omega

/-- A numeral is read as a number without a sign, not as one of the words. -/
theorem Numeral.ofText? (h : Numeral body) :
    Binary64.ofText? (String.ofList (signed negative body)) = Binary64.unsigned? negative body := by
  unfold Binary64.ofText?
  simp only [String.toList_ofList, h.takeSign]
  obtain ⟨c, t, rfl, hc⟩ := h.begins
  have hword {word : String} {d : Char} (hd : isDigit d = false) (hhead : word.toList.head? = some d) :
      String.ofList ((c :: t).map Char.toLower) ≠ word := by
    rintro rfl
    rw [String.toList_ofList, List.map_cons, List.head?_cons, toLower_of_isDigit hc] at hhead
    obtain rfl := Option.some.inj hhead
    rw [hc] at hd
    cases hd
  split
  · rename_i heq
    exact absurd heq (hword rfl rfl)
  · rename_i heq
    exact absurd heq (hword rfl rfl)
  · rename_i heq
    exact absurd heq (hword rfl rfl)
  · rfl

end

/-! ## Reading numerals -/

/-- A numeral that is read as a decimal. -/
structure Spells (body : List Char) (d : Decimal) : Prop where
  numeral : Numeral body
  read : ∀ negative, Binary64.unsigned? negative body = some (Binary64.ofDecimal negative d)

theorem noDigit_nil : Json.NoDigit [] := by simp [Json.NoDigit]

/-- Digits are read as an integer. -/
theorem spells_whole {ds : List Char} (h : ∀ c ∈ ds, isDigit c = true) (hne : ds ≠ []) :
    Spells ds ⟨ofDigits ds, 0⟩ := by
  have htake := Json.takeWhile_digits h noDigit_nil
  have hdrop := Json.dropWhile_digits h noDigit_nil
  have hnumeral := numeral_of_digits (t := []) hne h (by simp)
  rw [List.append_nil] at htake hdrop hnumeral
  refine ⟨hnumeral, fun negative => ?_⟩
  simp [Binary64.unsigned?, htake, hdrop, hne, Binary64.exponent?]

/-- Digits with a point are read as the integer of all the digits and a power of ten. -/
theorem spells_pointed {whole fraction : List Char} (hw : ∀ c ∈ whole, isDigit c = true) (hne : whole ≠ [])
    (hf : ∀ c ∈ fraction, isDigit c = true) :
    Spells (whole ++ '.' :: fraction) ⟨ofDigits (whole ++ fraction), -fraction.length⟩ := by
  have hpoint : Json.NoDigit ('.' :: fraction) := by simp [Json.NoDigit, isDigit]
  have htake := Json.takeWhile_digits hf noDigit_nil
  have hdrop := Json.dropWhile_digits hf noDigit_nil
  rw [List.append_nil] at htake hdrop
  refine ⟨numeral_of_digits hne hw fun c hc => ?_, fun negative => ?_⟩
  · rcases List.mem_cons.1 hc with rfl | hc
    · exact Or.inr rfl
    · exact Or.inl (hf c hc)
  · simp [Binary64.unsigned?, Json.takeWhile_digits hw hpoint, Json.dropWhile_digits hw hpoint, htake, hdrop,
      hne, Binary64.exponent?]

/-- Digits with zeros behind them. -/
theorem spells_zeros_behind (n e : ℕ) :
    Spells (decimalText n ++ List.replicate e '0') ⟨n * 10 ^ e, 0⟩ := by
  have hall : ∀ c ∈ decimalText n ++ List.replicate e '0', isDigit c = true := by
    intro c hc
    rcases List.mem_append.1 hc with hc | hc
    · exact Json.isDigit_decimalText n c hc
    · exact isDigit_zeros hc
  have hne : decimalText n ++ List.replicate e '0' ≠ [] := by simp [decimalText, Nat.toDigits_ne_nil]
  have h := spells_whole hall hne
  rwa [ofDigits_append_zeros, ofDigits_decimalText] at h

/-- Digits with the point among them. -/
theorem spells_point_among {n p k : ℕ} (hp : 0 < p) (hlength : (decimalText n).length = p + k) :
    Spells ((decimalText n).take p ++ '.' :: (decimalText n).drop p) ⟨n, -k⟩ := by
  have hdigits := Json.isDigit_decimalText n
  have hne : (decimalText n).take p ≠ [] := by
    rw [← List.length_pos_iff, List.length_take]
    omega
  have h := spells_pointed (fun c hc => hdigits c (List.mem_of_mem_take hc)) hne
    (fun c hc => hdigits c (List.mem_of_mem_drop (i := p) hc))
  rwa [List.take_append_drop, ofDigits_decimalText, List.length_drop, hlength, Nat.add_sub_cancel_left] at h

/-- Digits with the point and zeros in front of them. -/
theorem spells_zeros_before (n z : ℕ) :
    Spells ('0' :: '.' :: List.replicate z '0' ++ decimalText n) ⟨n, -(z + (decimalText n).length : ℕ)⟩ := by
  have hfraction : ∀ c ∈ List.replicate z '0' ++ decimalText n, isDigit c = true := by
    intro c hc
    rcases List.mem_append.1 hc with hc | hc
    · exact isDigit_zeros hc
    · exact Json.isDigit_decimalText n c hc
  have hzero : ∀ c ∈ ['0'], isDigit c = true := fun c hc => isDigit_zeros (k := 1) hc
  have h := spells_pointed hzero (by simp) hfraction
  have hvalue : ofDigits (['0'] ++ (List.replicate z '0' ++ decimalText n)) = n := by
    rw [← List.append_assoc, ← List.replicate_one, List.replicate_append_replicate, ofDigits_zeros_append,
      ofDigits_decimalText]
  rw [hvalue, List.length_append, List.length_replicate] at h
  exact h

/-- A decimal is read as it was written. -/
theorem spells_positional {d : Decimal} (hpos : 0 < d.digits) :
    ∃ d', Spells (Layout.plain.positional d) d' ∧ d'.value = d.value := by
  have hlength := length_decimalText hpos
  have hposition : d.position = digitCount d.digits + d.exponent := rfl
  unfold Layout.positional
  simp only
  split
  · rename_i hexponent
    obtain ⟨e, he⟩ := Int.eq_ofNat_of_zero_le hexponent
    have hplain : (if Layout.plain.pointed = true then ['.', '0'] else []) = [] := rfl
    rw [hplain, List.append_nil, he, Int.toNat_natCast]
    refine ⟨_, spells_zeros_behind d.digits e, ?_⟩
    rw [Decimal.value, Decimal.value, he, zpow_natCast, zpow_zero]
    push_cast
    ring
  · rename_i hexponent
    refine ⟨d, ?_, rfl⟩
    obtain ⟨k, hk⟩ := Int.eq_ofNat_of_zero_le (by omega : 0 ≤ -d.exponent)
    have hexponent : d.exponent = -(k : ℤ) := by omega
    split
    · rename_i hpoint
      obtain ⟨p, hp⟩ := Int.eq_ofNat_of_zero_le (le_of_lt hpoint)
      have h := spells_point_among (n := d.digits) (p := p) (k := k) (by omega) (by omega)
      rw [← hexponent] at h
      rwa [hp, Int.toNat_natCast]
    · rename_i hpoint
      obtain ⟨z, hz⟩ := Int.eq_ofNat_of_zero_le (by omega : 0 ≤ -d.position)
      have hsum : z + (decimalText d.digits).length = k := by omega
      have h := spells_zeros_before d.digits z
      rw [hsum, ← hexponent] at h
      rwa [hz, Int.toNat_natCast]

/-! ## Numbers in plain text -/

namespace Binary64

theorem toPlain_finite (negative : Bool) (mantissa scale : ℕ) (canonical : IsCanonical mantissa scale) :
    (finite negative mantissa scale canonical).toPlain =
      String.ofList (signed negative (Layout.plain.positional
        (if mantissa = 0 then ⟨0, 0⟩ else Decimal.shortest Layout.plain.tie mantissa scale))) := by
  -- no number gets an exponent
  have hpositional (position : ℤ) : Layout.plain.isPositional position = true := rfl
  rw [toPlain, Layout.finiteText, signed]
  by_cases hzero : mantissa = 0
  · rw [if_pos hzero, if_pos hzero]
  · rw [if_neg hzero, if_neg hzero]
    simp only [hpositional, if_true]

/-- A number is given back by its plain text. -/
theorem spells_toPlain (negative : Bool) {mantissa scale : ℕ} (canonical : IsCanonical mantissa scale) :
    ∃ body d, Spells body d ∧ ofDecimal negative d = finite negative mantissa scale canonical ∧
      (finite negative mantissa scale canonical).toPlain = String.ofList (signed negative body) := by
  rw [toPlain_finite]
  split
  · rename_i hzero
    subst hzero
    obtain rfl : scale = 0 := canonical.2.2.resolve_right (by decide)
    exact ⟨_, _, spells_zeros_behind 0 0, rfl, rfl⟩
  · rename_i hne
    have hpos : 0 < mantissa := Nat.pos_of_ne_zero hne
    have hrounds := Decimal.roundsTo_shortest canonical hpos Layout.plain.tie
    obtain ⟨d, hspells, hvalue⟩ := spells_positional (position_of_roundsTo canonical hpos hrounds).1
    rw [← hvalue] at hrounds
    exact ⟨_, d, hspells, ofDecimal_of_roundsTo canonical negative hpos hrounds, rfl⟩

/-- Every number is given back by its plain text. -/
theorem ofText?_toPlain (x : Binary64) : ofText? x.toPlain = some x := by
  cases x with
  | nan => rfl
  | infinite negative => cases negative <;> rfl
  | finite negative mantissa scale canonical =>
    obtain ⟨body, d, hspells, hd, htext⟩ := spells_toPlain negative canonical
    rw [htext, hspells.numeral.ofText?, hspells.read, hd]

/-! ## Integers -/

section

variable {negative : Bool} {mantissa scale : ℕ} {canonical : IsCanonical mantissa scale} {n : ℤ}

/-- The size and the sign of a number that is an integer. -/
theorem natAbs_of_toInt? (h : (finite negative mantissa scale canonical).toInt? = some n) :
    n.natAbs * unitsPerOne = mantissa * 2 ^ scale ∧
      n = if negative then -(n.natAbs : ℤ) else n.natAbs := by
  obtain ⟨units, hunits, hvalue⟩ := value?_eq_some.1 (toInt?_eq_some.1 h)
  have hpos : (0 : ℤ) < unitsPerOne := by exact_mod_cast unitsPerOne_pos
  have hvalue : n * unitsPerOne = units := by exact_mod_cast hvalue
  obtain rfl := Option.some.inj hunits
  have hsize : n.natAbs * unitsPerOne = mantissa * 2 ^ scale := by
    have h := congrArg Int.natAbs hvalue
    rw [Int.natAbs_mul, Int.natAbs_natCast] at h
    rw [h]
    cases negative
    · rfl
    · exact Int.natAbs_neg _
  refine ⟨hsize, ?_⟩
  cases negative with
  | false =>
    have hnonneg : 0 ≤ n * unitsPerOne := by
      rw [hvalue]
      exact Int.natCast_nonneg _
    exact (Int.natAbs_of_nonneg (nonneg_of_mul_nonneg_left hnonneg hpos)).symm
  | true =>
    have hnonneg : 0 ≤ -n * unitsPerOne := by
      rw [Int.neg_mul, hvalue]
      exact (Int.neg_neg _).symm ▸ Int.natCast_nonneg _
    have := nonneg_of_mul_nonneg_left hnonneg hpos
    rw [if_pos rfl]
    omega

/-- The digits of an integer are read as it. -/
theorem ofDecimal_natural {n : ℕ} (canonical : IsCanonical mantissa scale)
    (h : n * unitsPerOne = mantissa * 2 ^ scale) :
    ofDecimal negative ⟨n, 0⟩ = finite negative mantissa scale canonical := by
  rcases Nat.eq_zero_or_pos mantissa with rfl | hpos
  · obtain rfl : scale = 0 := canonical.2.2.resolve_right (by decide)
    rw [Nat.zero_mul] at h
    have hunits : unitsPerOne ≠ 0 := by exact_mod_cast unitsPerOne_pos.ne'
    obtain rfl := (Nat.mul_eq_zero.1 h).resolve_right hunits
    rfl
  · refine ofDecimal_of_roundsTo canonical negative hpos (roundsTo_exact ?_)
    rw [Decimal.value, zpow_zero, mul_one]
    exact_mod_cast h

end

end Binary64

/-! ## Numbers as they are shown -/

theorem integerText_eq (n : ℤ) : Json.integerText n = signed (decide (n < 0)) (decimalText n.natAbs) := by
  rw [Json.integerText, signed]
  by_cases hneg : n < 0
  · rw [if_pos hneg, decide_eq_true hneg]
    rfl
  · rw [if_neg hneg, decide_eq_false hneg]
    rfl

namespace FieldValue

open Binary64

/-- A number is given back by the text that it is shown with, but for the sign of a zero. -/
theorem spells_numberText {negative : Bool} {mantissa scale : ℕ} (canonical : IsCanonical mantissa scale)
    (hsigned : finite negative mantissa scale canonical ≠ zero true) :
    ∃ body d, Spells body d ∧ ofDecimal negative d = finite negative mantissa scale canonical ∧
      numberText (finite negative mantissa scale canonical) = String.ofList (signed negative body) := by
  rw [numberText]
  split
  · rename_i n hn
    split
    · obtain ⟨hsize, hsign⟩ := natAbs_of_toInt? hn
      have hspells := spells_whole (Json.isDigit_decimalText n.natAbs) Nat.toDigits_ne_nil
      rw [ofDigits_decimalText] at hspells
      refine ⟨_, _, hspells, ofDecimal_natural canonical hsize, ?_⟩
      have hnegative : decide (n < 0) = negative := by
        cases negative with
        | false =>
          rw [if_neg (by decide)] at hsign
          exact decide_eq_false (by omega)
        | true =>
          rw [if_pos rfl] at hsign
          have hne : n ≠ 0 := by
            rintro rfl
            refine hsigned ?_
            rw [← ofDecimal_natural canonical hsize]
            rfl
          exact decide_eq_true (by omega)
      rw [integerText_eq, hnegative]
    · exact spells_toPlain negative canonical
  · exact spells_toPlain negative canonical

/-- Every number but the negative zero is given back by the text that it is shown with. -/
theorem ofText?_numberText {x : Binary64} (hx : x ≠ zero true) : ofText? (numberText x) = some x := by
  cases x with
  | nan => rfl
  | infinite negative => cases negative <;> rfl
  | finite negative mantissa scale canonical =>
    obtain ⟨body, d, hspells, hd, htext⟩ := spells_numberText canonical hx
    rw [htext, hspells.numeral.ofText?, hspells.read, hd]

/-! ## What the text of a number is not -/

theorem isBlank_numeral {body : List Char} {negative : Bool} (h : Numeral body) :
    ∀ c ∈ signed negative body, Text.isBlank c = false := by
  have hdigit {c : Char} (hc : isDigit c = true) : Text.isBlank c = false := by
    have := isDigit_iff.1 hc
    simp only [Text.isBlank]
    simp
    omega
  intro c hc
  rcases List.mem_append.1 hc with hc | hc
  · cases negative with
    | false => cases hc
    | true =>
      obtain rfl := List.mem_singleton.1 hc
      rfl
  · rcases h.chars c hc with hc | rfl
    · exact hdigit hc
    · rfl

theorem trim_numberText {x : Binary64} (hx : x ≠ zero true) : Text.trim (numberText x) = numberText x := by
  cases x with
  | nan => rfl
  | infinite negative => cases negative <;> rfl
  | finite negative mantissa scale canonical =>
    obtain ⟨body, d, hspells, -, htext⟩ := spells_numberText canonical hx
    rw [htext, Text.trim, String.toList_ofList, Text.trimChars_eq_self (isBlank_numeral hspells.numeral)]

/-- A numeral begins with a digit or a sign. -/
theorem signed_head {body : List Char} (negative : Bool) (h : Numeral body) :
    ∃ c t, signed negative body = c :: t ∧ c.toNat < 65 := by
  cases negative with
  | true => exact ⟨'-', body, rfl, by decide⟩
  | false =>
    obtain ⟨c, t, rfl, hc⟩ := h.begins
    have := isDigit_iff.1 hc
    exact ⟨c, t, rfl, by omega⟩

/-- A direction's name begins with a letter. -/
theorem direction_name_head (d : Direction) : ∃ c t, d.name.toList = c :: t ∧ 65 ≤ c.toNat := by
  cases d <;> exact ⟨_, _, rfl, by decide⟩

/-- The text of a number names no direction. -/
theorem direction_numberText {x : Binary64} (hx : x ≠ zero true) :
    Direction.ofText? (numberText x) = none := by
  cases x with
  | nan => decide +kernel
  | infinite negative => cases negative <;> decide +kernel
  | finite negative mantissa scale canonical =>
    have htrim := trim_numberText hx
    obtain ⟨body, d, hspells, -, htext⟩ := spells_numberText canonical hx
    obtain ⟨c, t, hsigned, hc⟩ := signed_head negative hspells.numeral
    obtain ⟨u, hlower⟩ := Text.lowercase_head hc t
    have hnone : Direction.names.find? (·.1 == String.ofList (c :: u)) = none := by
      rw [List.find?_eq_none]
      intro name hname heq
      obtain ⟨direction, -, rfl⟩ := List.mem_map.1 hname
      obtain ⟨l, v, hname, hl⟩ := direction_name_head direction
      have heq : direction.name = String.ofList (c :: u) := beq_iff_eq.1 heq
      rw [heq, String.toList_ofList] at hname
      obtain rfl := (List.cons.inj hname).1
      omega
    rw [Direction.ofText?, htrim, htext, hsigned, hlower, hnone]
    rfl

end FieldValue

end BlockPilot
