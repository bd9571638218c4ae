import BlockPilot.Program.Field
import BlockPilot.Proofs.ExactValue
import BlockPilot.Proofs.ScalarText

/-!
# Numbers in fields

What a field of numbers means is decided by the exact value of the number that is or stands in it. One
relation for each field says what comes of which value (`SpeedOf`, `TimesOf`, `DurationOf`), and each
field gives just that (`Field.numbers_classified`). A value that is no number, or no integer where one is
asked for, is an invalid literal however large it is, so that a number is only put into a machine word or
a duration that has room for it.
-/

namespace BlockPilot

/-- The field's value is the number `x`, or reads as it, and the value of that is `q`. -/
def FieldValue.Holds (f : FieldValue) (x : Binary64) (q : ℚ) : Prop :=
  f.toNumber? = some x ∧ x.value? = some q

theorem FieldValue.Holds.unique {f : FieldValue} {x y : Binary64} {p q : ℚ} (hx : f.Holds x p)
    (hy : f.Holds y q) : x = y ∧ p = q := by
  obtain rfl : x = y := Option.some.inj (hx.1.symm.trans hy.1)
  exact ⟨rfl, Option.some.inj (hx.2.symm.trans hy.2)⟩

namespace Field

/-! ## What comes of a value -/

/-- A speed is an integer from 0 to 1023. -/
inductive SpeedOf : Option FieldValue → Except NodeFault ℕ → Prop
  | missing : SpeedOf none (.error (.missingField .speed .speed))
  | invalid {f : FieldValue} (noInteger : ∀ x (n : ℤ), ¬f.Holds x n) :
      SpeedOf (some f) (.error (.invalidLiteral .speed .speed f.toText))
  | inRange {f : FieldValue} {x : Binary64} {n : ℕ} (holds : f.Holds x n) (high : n ≤ 1023) :
      SpeedOf (some f) (.ok n)
  | outOfRange {f : FieldValue} {x : Binary64} {n : ℤ} (holds : f.Holds x n) (out : n < 0 ∨ 1023 < n) :
      SpeedOf (some f) (.error (.outOfRange .speed .speed x (.zero false) (.ofNat 1023)))

/-- How often a loop runs is a positive integer, and 2 ^ 32 - 1 at most. -/
inductive TimesOf (default : Option ℕ) : Option FieldValue → Except NodeFault ℕ → Prop
  | missing (required : default = none) : TimesOf default none (.error (.missingField .loop .times))
  | instead {count : ℕ} (given : default = some count) : TimesOf default none (.ok count)
  | invalid {f : FieldValue} (noInteger : ∀ x (n : ℤ), ¬f.Holds x n) :
      TimesOf default (some f) (.error (.invalidLiteral .loop .times f.toText))
  | count {f : FieldValue} {x : Binary64} {n : ℕ} (holds : f.Holds x n) (low : 1 ≤ n) :
      TimesOf default (some f) (.ok (min n 4294967295))
  | belowMinimum {f : FieldValue} {x : Binary64} {n : ℤ} (holds : f.Holds x n) (below : n < 1) :
      TimesOf default (some f) (.error (.belowMinimum .loop .times x (.ofNat 1)))

/-- The value of the number nearest to a tenth. -/
def tenth : ℚ := 3602879701896397 / 36028797018963968

/-- A duration is a number of seconds from a tenth to ten, in nanoseconds. -/
inductive DurationOf : Option FieldValue → Except NodeFault ℕ → Prop
  | missing : DurationOf none (.error (.missingField .wait .seconds))
  | invalid {f : FieldValue} (noNumber : ∀ x q, ¬f.Holds x q) :
      DurationOf (some f) (.error (.invalidLiteral .wait .seconds f.toText))
  | inRange {f : FieldValue} {x : Binary64} {q : ℚ} {n : ℕ} (holds : f.Holds x q) (low : tenth ≤ q)
      (high : q ≤ 10) (nearest : IsNearest (q * 1000000000) n) : DurationOf (some f) (.ok n)
  | outOfRange {f : FieldValue} {x : Binary64} {q : ℚ} (holds : f.Holds x q) (out : q < tenth ∨ 10 < q) :
      DurationOf (some f) (.error (.outOfRange .wait .seconds x (.ofRatio false 1 10) (.ofNat 10)))

/-! ## Finite numbers and integers -/

section

variable {kind : BlockKind} {name : FieldName} {f : FieldValue} {x : Binary64} {q : ℚ} {n : ℤ}

theorem finite_of_holds (h : f.Holds x q) : finite kind name f = .ok x := by
  rw [finite, h.1]
  exact if_pos (Binary64.isFinite_iff.2 ⟨q, h.2⟩)

theorem finite_of_none (h : ∀ x q, ¬f.Holds x q) :
    finite kind name f = .error (.invalidLiteral kind name f.toText) := by
  rw [finite]
  cases hx : f.toNumber? with
  | none => rfl
  | some x =>
    refine if_neg fun hfinite => ?_
    obtain ⟨q, hq⟩ := Binary64.isFinite_iff.1 hfinite
    exact h x q ⟨hx, hq⟩

theorem whole_of_holds (h : f.Holds x n) : whole kind name f = .ok (n, x) := by
  rw [whole, finite_of_holds h, Json.ok_bind, Binary64.toInt?_eq_some.2 h.2]

theorem whole_of_none (h : ∀ x (n : ℤ), ¬f.Holds x n) :
    whole kind name f = .error (.invalidLiteral kind name f.toText) := by
  by_cases hnumber : ∃ x q, f.Holds x q
  · obtain ⟨x, q, hx⟩ := hnumber
    have hnone : x.toInt? = none := Binary64.toInt?_eq_none.2 fun n hn => h x n ⟨hx.1, hn⟩
    rw [whole, finite_of_holds hx, Json.ok_bind, hnone]
  · rw [whole, finite_of_none fun x q hx => hnumber ⟨x, q, hx⟩]
    rfl

end

/-! ## Speeds and counts -/

theorem SpeedOf.eq {value : Option FieldValue} {r : Except NodeFault ℕ} (h : SpeedOf value r) :
    speed value = r := by
  have read {f : FieldValue} {x : Binary64} {n : ℤ} (holds : f.Holds x n) :
      speed (some f) = if n < 0 ∨ (maxSpeed : ℤ) < n then
        .error (.outOfRange .speed .speed x (.zero false) (.ofNat maxSpeed)) else .ok n.toNat := by
    rw [speed, required, Json.ok_bind, whole_of_holds holds, Json.ok_bind]
  cases h with
  | missing => rfl
  | invalid noInteger =>
    rw [speed, required, Json.ok_bind, whole_of_none noInteger]
    rfl
  | inRange holds high =>
    rw [read holds, if_neg (by rw [maxSpeed]; omega), Int.toNat_natCast]
  | outOfRange holds out => exact (read holds).trans (if_pos out)

theorem exists_speedOf (value : Option FieldValue) : ∃ r, SpeedOf value r := by
  cases value with
  | none => exact ⟨_, .missing⟩
  | some f =>
    by_cases h : ∃ x, ∃ n : ℤ, f.Holds x n
    · obtain ⟨x, n, holds⟩ := h
      by_cases out : n < 0 ∨ 1023 < n
      · exact ⟨_, .outOfRange holds out⟩
      · obtain ⟨m, rfl⟩ := Int.eq_ofNat_of_zero_le (by omega : 0 ≤ n)
        exact ⟨_, .inRange holds (by omega)⟩
    · exact ⟨_, .invalid fun x n holds => h ⟨x, n, holds⟩⟩

theorem TimesOf.eq {default : Option ℕ} {value : Option FieldValue} {r : Except NodeFault ℕ}
    (h : TimesOf default value r) : times default value = r := by
  have read {f : FieldValue} {x : Binary64} {n : ℤ} (holds : f.Holds x n) :
      times default (some f) = if n < 1 then .error (.belowMinimum .loop .times x (.ofNat 1))
        else .ok (min n.toNat maxTimes) := by
    rw [times, whole_of_holds holds, Json.ok_bind]
  cases h with
  | missing required =>
    rw [required]
    rfl
  | instead given =>
    rw [given]
    rfl
  | invalid noInteger =>
    rw [times, whole_of_none noInteger]
    rfl
  | count holds low =>
    rw [read holds, if_neg (by omega), Int.toNat_natCast]
    rfl
  | belowMinimum holds below => rw [read holds, if_pos below]

theorem exists_timesOf (default : Option ℕ) (value : Option FieldValue) : ∃ r, TimesOf default value r := by
  cases value with
  | none =>
    cases default with
    | none => exact ⟨_, .missing rfl⟩
    | some count => exact ⟨_, .instead rfl⟩
  | some f =>
    by_cases h : ∃ x, ∃ n : ℤ, f.Holds x n
    · obtain ⟨x, n, holds⟩ := h
      by_cases below : n < 1
      · exact ⟨_, .belowMinimum holds below⟩
      · obtain ⟨m, rfl⟩ := Int.eq_ofNat_of_zero_le (by omega : 0 ≤ n)
        exact ⟨_, .count holds (by omega)⟩
    · exact ⟨_, .invalid fun x n holds => h ⟨x, n, holds⟩⟩

/-! ## Durations -/

theorem value?_minWait : minWait.value? = some tenth := by
  have hunits : minWait.units? = some ((7205759403792794 * Nat.pow 2 1018 : ℕ) : ℤ) := by decide +kernel
  have hsplit : Binary64.unitsPerOne = 2 ^ 56 * Nat.pow 2 1018 := by decide +kernel
  refine Binary64.value?_eq_some.2 ⟨_, hunits, ?_⟩
  rw [hsplit, tenth]
  push_cast
  ring

theorem value?_maxWait : maxWait.value? = some 10 := by
  have h : maxWait.toInt? = some 10 := by decide +kernel
  exact_mod_cast Binary64.toInt?_eq_some.1 h

/-- Seconds in nanoseconds, to the nearest. -/
theorem isNearest_nanoseconds {x : Binary64} {q : ℚ} (hx : x.value? = some q) (hq : 0 ≤ q) :
    IsNearest (q * 1000000000) (nanoseconds x) := by
  obtain ⟨units, hunits, hvalue⟩ := Binary64.value?_eq_some.1 hx
  have hpos := Binary64.unitsPerOne_pos
  have hunits_nonneg : 0 ≤ units := by
    have : (0 : ℚ) ≤ units := by
      rw [← hvalue]
      exact mul_nonneg hq (le_of_lt hpos)
    exact_mod_cast this
  obtain ⟨u, rfl⟩ := Int.eq_ofNat_of_zero_le hunits_nonneg
  have hexact : q * 1000000000 = ((1000000000 * u : ℕ) : ℚ) / Binary64.unitsPerOne := by
    rw [eq_div_iff hpos.ne']
    push_cast at hvalue ⊢
    linarith
  rw [nanoseconds, hunits, Option.getD_some, Int.toNat_natCast, hexact]
  exact isNearest_roundHalfEven _ (by exact_mod_cast hpos)

theorem tenth_pos : 0 < tenth := by norm_num [tenth]

theorem DurationOf.eq {value : Option FieldValue} {r : Except NodeFault ℕ} (h : DurationOf value r) :
    duration value = r := by
  have read {f : FieldValue} {x : Binary64} {q : ℚ} (holds : f.Holds x q) :
      duration (some f) = if q < tenth ∨ 10 < q then
        .error (.outOfRange .wait .seconds x (.ofRatio false 1 10) (.ofNat 10))
        else .ok (nanoseconds x) := by
    rw [duration, required, Json.ok_bind, finite_of_holds holds, Json.ok_bind]
    have hrange : (x.lt minWait || maxWait.lt x) = true ↔ q < tenth ∨ 10 < q := by
      rw [Bool.or_eq_true, Binary64.lt_iff holds.2 value?_minWait, Binary64.lt_iff value?_maxWait holds.2]
    simp only [hrange]
    rfl
  cases h with
  | missing => rfl
  | invalid noNumber =>
    rw [duration, required, Json.ok_bind, finite_of_none noNumber]
    rfl
  | inRange holds low high nearest =>
    have hnanoseconds := isNearest_nanoseconds holds.2 (le_trans (le_of_lt tenth_pos) low)
    rw [read holds, if_neg (by simp [low, high]), hnanoseconds.unique nearest]
  | outOfRange holds out => rw [read holds, if_pos out]

theorem exists_durationOf (value : Option FieldValue) : ∃ r, DurationOf value r := by
  cases value with
  | none => exact ⟨_, .missing⟩
  | some f =>
    by_cases h : ∃ x q, f.Holds x q
    · obtain ⟨x, q, holds⟩ := h
      by_cases out : q < tenth ∨ 10 < q
      · exact ⟨_, .outOfRange holds out⟩
      · obtain ⟨low, high⟩ := not_or.1 out
        have low := not_lt.1 low
        exact ⟨_, .inRange holds low (not_lt.1 high)
          (isNearest_nanoseconds holds.2 (le_trans (le_of_lt tenth_pos) low))⟩
    · exact ⟨_, .invalid fun x q holds => h ⟨x, q, holds⟩⟩

/-- The shortest and the longest duration. -/
theorem bounds_of_isNearest {q : ℚ} {n : ℕ} (h : IsNearest (q * 1000000000) n) (low : tenth ≤ q)
    (high : q ≤ 10) : 100000000 ≤ n ∧ n ≤ 10000000000 := by
  have hlow : IsNearest (tenth * 1000000000) 100000000 := by
    have hnear : |((100000000 : ℕ) : ℚ) - tenth * 1000000000| < 1 / 2 := by
      rw [abs_lt]
      constructor <;> norm_num [tenth]
    exact ⟨le_of_lt hnear, fun heq => absurd heq (ne_of_lt hnear)⟩
  have hhigh : IsNearest ((10 : ℚ) * 1000000000) 10000000000 := by
    constructor <;> norm_num
  exact ⟨hlow.mono h (by linarith), h.mono hhigh (by linarith)⟩

end Field

/-! ## Machine words and durations

How a number is put into a machine word and into a duration, whatever number it is: a word takes the
nearest integer towards zero that it has room for, and there is no duration for a number that is negative,
not finite or too large. -/

namespace Binary64

/-- The number in a word whose greatest value is `max`: a fraction is cut off, and a number that does not
fit becomes the nearest that does. -/
def saturate (max : ℕ) : Binary64 → ℕ
  | .nan => 0
  | .infinite negative => if negative then 0 else max
  | x@(.finite ..) => min max ((x.units?.getD 0) / unitsPerOne).toNat

/-- The lesser of two numbers, and the one that is a number if the other is a NaN. -/
def lesser (x y : Binary64) : Binary64 :=
  if y = .nan ∨ x.lt y = true then x else y

/-- The duration of so many seconds in nanoseconds; it holds fewer than 2 ^ 64 whole seconds. -/
def duration? (x : Binary64) : Option ℕ :=
  match x.units? with
  | some units =>
    if units < 0 ∨ UInt64.size ≤ Field.nanoseconds x / 1000000000 then none else some (Field.nanoseconds x)
  | none => none

variable {x y : Binary64} {p q : ℚ}

/-- Nothing is lost of an integer that fits. -/
theorem saturate_eq {max n : ℕ} (hx : x.value? = some (n : ℚ)) (hn : n ≤ max) : x.saturate max = n := by
  have hint : x.toInt? = some (n : ℤ) := toInt?_eq_some.2 (by exact_mod_cast hx)
  cases x with
  | nan | infinite => cases hx
  | finite negative mantissa scale canonical =>
    rw [toInt?] at hint
    split at hint
    · rename_i units hunits
      split at hint
      · have hquotient := Option.some.inj hint
        rw [saturate, hunits, Option.getD_some, hquotient, Int.toNat_natCast, Nat.min_eq_right hn]
      · cases hint
    · cases hint

theorem value?_lesser (hx : x.value? = some p) (hy : y.value? = some q) :
    (x.lesser y).value? = some (min p q) := by
  have hnan : y ≠ .nan := by
    rintro rfl
    cases hy
  rw [lesser]
  by_cases hlt : p < q
  · rw [if_pos (Or.inr ((lt_iff hx hy).2 hlt)), hx, min_eq_left (le_of_lt hlt)]
  · have hge : ¬(y = .nan ∨ x.lt y = true) := by
      rw [lt_iff hx hy]
      exact not_or.2 ⟨hnan, hlt⟩
    rw [if_neg hge, hy, min_eq_right (not_lt.1 hlt)]

/-- A number of seconds that is not negative and not too large is a duration. -/
theorem duration?_eq_some (hx : x.value? = some q) (hq : 0 ≤ q)
    (hn : Field.nanoseconds x < UInt64.size * 1000000000) : x.duration? = some (Field.nanoseconds x) := by
  obtain ⟨units, hunits, hvalue⟩ := value?_eq_some.1 hx
  have hunits_nonneg : 0 ≤ units := by
    have : (0 : ℚ) ≤ units := by
      rw [← hvalue]
      exact mul_nonneg hq (le_of_lt unitsPerOne_pos)
    exact_mod_cast this
  simp only [duration?, hunits]
  refine if_neg (not_or.2 ⟨by omega, ?_⟩)
  rw [not_le, Nat.div_lt_iff_lt_mul (by decide)]
  exact hn

end Binary64

namespace Field

theorem value?_maxTimes : (Binary64.ofNat maxTimes).value? = some 4294967295 := by
  have h : (Binary64.ofNat maxTimes).toInt? = some 4294967295 := by decide +kernel
  exact_mod_cast Binary64.toInt?_eq_some.1 h

/-- A speed is put into 16 bits without loss. -/
theorem saturate_of_speed {f : FieldValue} {n : ℕ} (h : speed (some f) = .ok n) :
    ∃ x, f.Holds x n ∧ x.saturate (UInt16.size - 1) = n := by
  obtain ⟨r, hr⟩ := exists_speedOf (some f)
  obtain rfl := hr.eq.symm.trans h
  cases hr with
  | @inRange _ x _ holds high =>
    have hfits : n ≤ UInt16.size - 1 := Nat.le_trans high (by decide)
    exact ⟨x, holds, Binary64.saturate_eq holds.2 hfits⟩

/-- A count is cut down to what 32 bits hold before it is put there, and then without loss. -/
theorem saturate_of_times {default : Option ℕ} {f : FieldValue} {n : ℕ} (h : times default (some f) = .ok n) :
    ∃ x, f.toNumber? = some x ∧ (x.lesser (.ofNat (UInt32.size - 1))).value? = some (n : ℚ) ∧
      (x.lesser (.ofNat (UInt32.size - 1))).saturate (UInt32.size - 1) = n := by
  obtain ⟨r, hr⟩ := exists_timesOf default (some f)
  obtain rfl := hr.eq.symm.trans h
  cases hr with
  | @count _ x m holds low =>
    have hvalue : (x.lesser (.ofNat (UInt32.size - 1))).value? = some ((min m 4294967295 : ℕ) : ℚ) := by
      rw [Nat.cast_min]
      exact Binary64.value?_lesser holds.2 value?_maxTimes
    exact ⟨x, holds.1, hvalue, Binary64.saturate_eq hvalue (Nat.min_le_right m _)⟩

/-- A number of seconds that is in range is a duration. -/
theorem duration?_of_duration {f : FieldValue} {n : ℕ} (h : duration (some f) = .ok n) :
    ∃ x, f.toNumber? = some x ∧ x.duration? = some n := by
  obtain ⟨r, hr⟩ := exists_durationOf (some f)
  obtain rfl := hr.eq.symm.trans h
  cases hr with
  | @inRange _ x q _ holds low high nearest =>
    have hpos : 0 ≤ q := le_trans (le_of_lt tenth_pos) low
    have hn : nanoseconds x = n := (isNearest_nanoseconds holds.2 hpos).unique nearest
    have hlarge : nanoseconds x < UInt64.size * 1000000000 := by
      rw [hn]
      exact Nat.lt_of_le_of_lt (bounds_of_isNearest nearest low high).2 (by decide)
    refine ⟨x, holds.1, ?_⟩
    rw [Binary64.duration?_eq_some holds.2 hpos hlarge, hn]

/-- Longer waits last longer. -/
theorem duration_mono {f g : FieldValue} {x y : Binary64} {p q : ℚ} {m n : ℕ} (hf : f.Holds x p)
    (hg : g.Holds y q) (hle : p ≤ q) (hm : duration (some f) = .ok m) (hn : duration (some g) = .ok n) :
    m ≤ n := by
  obtain ⟨r, hr⟩ := exists_durationOf (some f)
  obtain rfl := hr.eq.symm.trans hm
  obtain ⟨s, hs⟩ := exists_durationOf (some g)
  obtain rfl := hs.eq.symm.trans hn
  cases hr with
  | inRange holds low high nearest =>
    cases hs with
    | inRange holds' low' high' nearest' =>
      obtain ⟨-, rfl⟩ := holds.unique hf
      obtain ⟨-, rfl⟩ := holds'.unique hg
      exact nearest.mono nearest' (by linarith)

/-- **Numbers in fields.** What a speed, a count or a duration is, or why it is none, is decided by the exact
value of the number in the field, as the three relations say. Durations keep the order of the numbers and
lie between a tenth of a second and ten seconds. Whatever number is accepted, it is put into its machine
word without loss, and there is a duration for it. -/
theorem numbers_classified (default : Option ℕ) :
    ((∀ value r, speed value = r ↔ SpeedOf value r) ∧
      (∀ value r, times default value = r ↔ TimesOf default value r) ∧
      ∀ value r, duration value = r ↔ DurationOf value r) ∧
    ((∀ value n, duration value = .ok n → 100000000 ≤ n ∧ n ≤ 10000000000) ∧
      ∀ f g x y p q m n, FieldValue.Holds f x p → FieldValue.Holds g y q → p ≤ q →
        duration (some f) = .ok m → duration (some g) = .ok n → m ≤ n) ∧
    (∀ f n, speed (some f) = .ok n → ∃ x, f.Holds x n ∧ x.saturate (UInt16.size - 1) = n) ∧
    (∀ f n, times default (some f) = .ok n → ∃ x, f.toNumber? = some x ∧
      (x.lesser (.ofNat (UInt32.size - 1))).value? = some (n : ℚ) ∧
      (x.lesser (.ofNat (UInt32.size - 1))).saturate (UInt32.size - 1) = n) ∧
    ∀ f n, duration (some f) = .ok n → ∃ x, f.toNumber? = some x ∧ x.duration? = some n := by
  refine ⟨⟨fun value r => ⟨?_, SpeedOf.eq⟩, fun value r => ⟨?_, TimesOf.eq⟩,
    fun value r => ⟨?_, DurationOf.eq⟩⟩, ⟨?_, ?_⟩, ?_, ?_, ?_⟩
  · rintro rfl
    obtain ⟨r, hr⟩ := exists_speedOf value
    rwa [hr.eq]
  · rintro rfl
    obtain ⟨r, hr⟩ := exists_timesOf default value
    rwa [hr.eq]
  · rintro rfl
    obtain ⟨r, hr⟩ := exists_durationOf value
    rwa [hr.eq]
  · intro value n h
    obtain ⟨r, hr⟩ := exists_durationOf value
    obtain rfl := hr.eq.symm.trans h
    cases hr with
    | inRange holds low high nearest => exact bounds_of_isNearest nearest low high
  · intro f g x y p q m n
    exact duration_mono
  · exact fun f n => saturate_of_speed
  · exact fun f n => saturate_of_times
  · exact fun f n => duration?_of_duration

end Field

end BlockPilot
