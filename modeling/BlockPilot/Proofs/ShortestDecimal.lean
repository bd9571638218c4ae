import BlockPilot.Proofs.NearestNumber

/-!
# Shortest decimals

The decimal that stands for a number is rounded to it (`Decimal.roundsTo_shortest`): a decimal is only
taken from the reading interval, and with seventeen digits the decimals are closer to one another than the
ends of that interval, so that one is found. For an integer it is an integer as well
(`Decimal.exponent_shortest_nonneg`), since the search has come upon the integer itself before it gets to
fractions.
-/

namespace BlockPilot.Decimal

/-! ## Intervals -/

/-- A rational number lies in an interval, and is one of its ends only if these belong to it. -/
structure Interval.Holds (i : Interval) (x : ℚ) : Prop where
  low : i.low ≤ x
  high : x ≤ i.high
  ends : x = i.low ∨ x = i.high → i.closed = true

namespace Interval

variable {i : Interval} {tie : Tie} {step factor k : ℕ} {x : ℚ}

theorem contains_iff {n : ℕ} : i.contains n = true ↔ i.Holds n := by
  unfold contains
  split
  · rename_i hclosed
    rw [decide_eq_true_iff]
    constructor
    · rintro ⟨hlow, hhigh⟩
      exact ⟨by exact_mod_cast hlow, by exact_mod_cast hhigh, fun _ => hclosed⟩
    · rintro ⟨hlow, hhigh, -⟩
      exact ⟨by exact_mod_cast hlow, by exact_mod_cast hhigh⟩
  · rename_i hopen
    rw [decide_eq_true_iff]
    constructor
    · rintro ⟨hlow, hhigh⟩
      refine ⟨by exact_mod_cast Nat.le_of_lt hlow, by exact_mod_cast Nat.le_of_lt hhigh, ?_⟩
      rintro (heq | heq)
      · have : n = i.low := by exact_mod_cast heq
        omega
      · have : n = i.high := by exact_mod_cast heq
        omega
    · rintro ⟨hlow, hhigh, hends⟩
      have hlow : i.low ≤ n := by exact_mod_cast hlow
      have hhigh : n ≤ i.high := by exact_mod_cast hhigh
      have hne_low : n ≠ i.low := fun heq => hopen (hends (Or.inl (by rw [heq])))
      have hne_high : n ≠ i.high := fun heq => hopen (hends (Or.inr (by rw [heq])))
      omega

theorem holds_stretch (h : 0 < factor) : (i.stretch factor).Holds (x * factor) ↔ i.Holds x := by
  have hpos : (0 : ℚ) < factor := by exact_mod_cast h
  have hends : (x * factor = i.low * factor ∨ x * factor = i.high * factor) ↔ (x = i.low ∨ x = i.high) := by
    rw [mul_left_inj' hpos.ne', mul_left_inj' hpos.ne']
  constructor
  · rintro ⟨hlow, hhigh, hclosed⟩
    simp only [stretch, Nat.cast_mul] at hlow hhigh hclosed
    exact ⟨le_of_mul_le_mul_right hlow hpos, le_of_mul_le_mul_right hhigh hpos,
      fun heq => hclosed (hends.2 heq)⟩
  · rintro ⟨hlow, hhigh, hclosed⟩
    constructor
    · simp only [stretch, Nat.cast_mul]
      exact mul_le_mul_of_nonneg_right hlow (le_of_lt hpos)
    · simp only [stretch, Nat.cast_mul]
      exact mul_le_mul_of_nonneg_right hhigh (le_of_lt hpos)
    · intro heq
      simp only [stretch, Nat.cast_mul] at heq
      exact hclosed (hends.1 heq)

/-! ## The multiple of a step that is nearest -/

theorem holds_of_nearestStep? (h : i.nearestStep? tie step = some k) : i.Holds (k * step) := by
  suffices i.contains (k * step) = true by exact_mod_cast contains_iff.1 this
  unfold nearestStep? at h
  simp only at h
  split at h
  · cases h
  · rename_i hlower hupper
    cases h
    exact hlower
  · rename_i hlower hupper
    cases h
    exact hupper
  · rename_i hlower hupper
    -- of two that are in the interval either may be the nearer
    have hone : k = i.value / step ∨ k = i.value / step + 1 := by
      split at h
      · exact Or.inl (Option.some.inj h).symm
      · split at h
        · exact Or.inr (Option.some.inj h).symm
        · cases tie with
          | away => exact Or.inr (Option.some.inj h).symm
          | toEven =>
            obtain rfl := Option.some.inj h
            split
            · exact Or.inl rfl
            · exact Or.inr rfl
    rcases hone with rfl | rfl
    · exact hlower
    · exact hupper

/-- The value lies between two multiples of a step, neither of which is in the interval. -/
structure Straddles (i : Interval) (width : ℚ) (k : ℕ) : Prop where
  low : k * width ≤ i.value
  high : i.value < (k + 1 : ℕ) * width
  lower : ¬i.Holds (k * width)
  upper : ¬i.Holds ((k + 1 : ℕ) * width)

/-- None is found only if neither neighbour of the value lies in the interval. -/
theorem straddles_of_nearestStep? (hstep : 0 < step) (h : i.nearestStep? tie step = none) :
    ∃ k, i.Straddles step k := by
  have hnone : i.contains (i.value / step * step) = false ∧
      i.contains ((i.value / step + 1) * step) = false := by
    unfold nearestStep? at h
    simp only at h
    split at h
    · rename_i hlower hupper
      exact ⟨hlower, hupper⟩
    · cases h
    · cases h
    · split at h
      · cases h
      · split at h
        · cases h
        · cases tie <;> cases h
  refine ⟨i.value / step, ?_, ?_, ?_, ?_⟩
  · exact_mod_cast Nat.div_mul_le_self i.value step
  · exact_mod_cast Nat.lt_mul_of_div_lt (Nat.lt_succ_self _) hstep
  · intro hholds
    have : i.contains (i.value / step * step) = true := contains_iff.2 (by exact_mod_cast hholds)
    rw [hnone.1] at this
    cases this
  · intro hholds
    have : i.contains ((i.value / step + 1) * step) = true := contains_iff.2 (by exact_mod_cast hholds)
    rw [hnone.2] at this
    cases this

theorem Straddles.of_stretch {width : ℚ} (hfactor : 0 < factor)
    (h : (i.stretch factor).Straddles (width * factor) k) : i.Straddles width k := by
  have hpos : (0 : ℚ) < factor := by exact_mod_cast hfactor
  obtain ⟨hlow, hhigh, hlower, hupper⟩ := h
  rw [← mul_assoc] at hlow hhigh hlower hupper
  simp only [stretch, Nat.cast_mul] at hlow hhigh
  refine ⟨le_of_mul_le_mul_right hlow hpos, lt_of_mul_lt_mul_right hhigh (le_of_lt hpos), ?_, ?_⟩
  · rwa [holds_stretch hfactor] at hlower
  · rwa [holds_stretch hfactor] at hupper

end Interval

theorem quartersPerOne_eq : (quartersPerOne : ℚ) = 4 * Binary64.unitsPerOne := by
  rw [quartersPerOne, Nat.cast_mul, Nat.cast_ofNat]

theorem quartersPerOne_pos : (0 : ℚ) < quartersPerOne := by
  have := Binary64.unitsPerOne_pos
  rw [quartersPerOne_eq]
  linarith

namespace Interval

variable {i : Interval} {tie : Tie} {position : ℤ} {count : ℕ} {d : Decimal}

/-- The step between decimals of a negative exponent, in an interval that is stretched. -/
theorem stretched_step {exponent : ℤ} {e : ℕ} (he : -exponent = e) :
    (10 ^ exponent * quartersPerOne : ℚ) * Nat.pow 10 e = quartersPerOne := by
  have hinverse : exponent = -(e : ℤ) := by omega
  have hten : (10 : ℚ) ^ e ≠ 0 := by positivity
  rw [hinverse, zpow_neg, zpow_natCast, Nat.pow_eq, Nat.cast_pow, Nat.cast_ofNat, mul_right_comm,
    inv_mul_cancel₀ hten, one_mul]

/-- A decimal that is found has so many digits and lies in the interval. -/
theorem holds_of_decimal? (h : i.decimal? tie position count = some d) :
    d.exponent = position - count ∧ i.Holds (d.value * quartersPerOne) := by
  unfold decimal? at h
  simp only at h
  obtain ⟨k, hk, rfl⟩ := Option.map_eq_some_iff.1 h
  refine ⟨rfl, ?_⟩
  rw [Decimal.value, mul_assoc]
  split at hk
  · rename_i hexponent
    obtain ⟨e, he⟩ := Int.eq_ofNat_of_zero_le hexponent
    rw [he, Int.toNat_natCast] at hk
    rw [he, zpow_natCast]
    exact_mod_cast holds_of_nearestStep? hk
  · rename_i hexponent
    obtain ⟨e, he⟩ := Int.eq_ofNat_of_zero_le (by omega : 0 ≤ -(position - count))
    have hpow : 0 < Nat.pow 10 e := Nat.pow_pos (by decide)
    rw [he, Int.toNat_natCast] at hk
    rw [← holds_stretch hpow, mul_assoc, stretched_step he]
    exact holds_of_nearestStep? hk

/-- Otherwise neither of the two decimals about the value lies in the interval. -/
theorem straddles_of_decimal? (h : i.decimal? tie position count = none) :
    ∃ k, i.Straddles (10 ^ (position - count) * quartersPerOne) k := by
  have hquarters : 0 < quartersPerOne := by exact_mod_cast quartersPerOne_pos
  unfold decimal? at h
  simp only [Option.map_eq_none_iff] at h
  split at h
  · rename_i hexponent
    obtain ⟨e, he⟩ := Int.eq_ofNat_of_zero_le hexponent
    rw [he, Int.toNat_natCast] at h
    obtain ⟨k, hk⟩ := straddles_of_nearestStep? (Nat.mul_pos (Nat.pow_pos (by decide)) hquarters) h
    refine ⟨k, ?_⟩
    rw [he, zpow_natCast]
    exact_mod_cast hk
  · rename_i hexponent
    obtain ⟨e, he⟩ := Int.eq_ofNat_of_zero_le (by omega : 0 ≤ -(position - count))
    rw [he, Int.toNat_natCast] at h
    obtain ⟨k, hk⟩ := straddles_of_nearestStep? hquarters h
    rw [← stretched_step he] at hk
    exact ⟨k, hk.of_stretch (Nat.pow_pos (by decide))⟩

end Interval

/-! ## The reading interval of a number -/

section

variable {mantissa scale : ℕ} {tie : Tie} {q : ℚ}

/-- A number of quarters in steps of the scale. -/
theorem quarters_eq : q * quartersPerOne = 4 * 2 ^ scale * steps scale q := by
  rw [quartersPerOne_eq, steps]
  generalize (Binary64.unitsPerOne : ℚ) = units
  field_simp

theorem readingInterval_low (hpos : 0 < mantissa) :
    ((readingInterval mantissa scale).low : ℚ) = 4 * 2 ^ scale * (mantissa - roomBelow mantissa scale) := by
  have hbelow {n : ℕ} (hn : n ≤ 4) : n * 2 ^ scale ≤ 4 * mantissa * 2 ^ scale :=
    Nat.mul_le_mul_right _ (by omega)
  have hone := hbelow (n := 1) (by decide)
  have htwo := hbelow (n := 2) (by decide)
  rw [Nat.one_mul] at hone
  rw [readingInterval, roomBelow]
  simp only [Nat.pow_eq]
  split
  · rw [Nat.cast_sub hone]
    push_cast
    ring
  · rw [Nat.cast_sub htwo]
    push_cast
    ring

theorem readingInterval_high :
    ((readingInterval mantissa scale).high : ℚ) = 4 * 2 ^ scale * (mantissa + 1 / 2) := by
  rw [readingInterval]
  simp only [Nat.pow_eq]
  push_cast
  ring

theorem readingInterval_value :
    ((readingInterval mantissa scale).value : ℚ) = 4 * 2 ^ scale * mantissa := by
  rw [readingInterval]
  simp only [Nat.pow_eq]
  push_cast
  ring

/-- The reading interval holds what is rounded to the number. -/
theorem readingInterval_holds (hpos : 0 < mantissa) :
    (readingInterval mantissa scale).Holds (q * quartersPerOne) ↔
      RoundsTo mantissa scale (steps scale q) := by
  have hstep : (0 : ℚ) < 4 * 2 ^ scale := by positivity
  have hclosed : (readingInterval mantissa scale).closed = true ↔ mantissa % 2 = 0 := beq_iff_eq
  have hlow := @readingInterval_low mantissa scale hpos
  have hhigh := @readingInterval_high mantissa scale
  rw [quarters_eq]
  constructor
  · rintro ⟨hle, hge, hends⟩
    rw [hlow] at hle hends
    rw [hhigh] at hge hends
    rw [hclosed, mul_right_inj' hstep.ne', mul_right_inj' hstep.ne'] at hends
    exact ⟨le_of_mul_le_mul_left hle hstep, le_of_mul_le_mul_left hge hstep, hends⟩
  · rintro ⟨hle, hge, hends⟩
    constructor
    · rw [hlow]
      exact mul_le_mul_of_nonneg_left hle (le_of_lt hstep)
    · rw [hhigh]
      exact mul_le_mul_of_nonneg_left hge (le_of_lt hstep)
    · rwa [hlow, hhigh, hclosed, mul_right_inj' hstep.ne', mul_right_inj' hstep.ne']

/-! ## The position of the point -/

/-- The digits of a quotient that is made large enough say between which powers of ten it lies. -/
theorem quotient_bounds {a b t : ℕ} {p : ℤ} (hb : 0 < b) (h : b ≤ a * 10 ^ t)
    (hp : (digitCount (a * 10 ^ t / b) : ℤ) - t = p) :
    (10 : ℚ) ^ (p - 1) * b ≤ a ∧ a < (10 : ℚ) ^ p * b := by
  have hone : 1 ≤ a * 10 ^ t / b := by rwa [Nat.le_div_iff_mul_le hb, one_mul]
  obtain ⟨c, hc⟩ : ∃ c, digitCount (a * 10 ^ t / b) = c + 1 := by
    refine Nat.exists_eq_succ_of_ne_zero fun hzero => ?_
    have := digitCount_le.1 (Nat.le_of_eq hzero)
    omega
  have hlow : 10 ^ c * b ≤ a * 10 ^ t := by
    rw [← Nat.le_div_iff_mul_le hb, ← not_lt, ← digitCount_le]
    omega
  have hhigh : a * 10 ^ t < 10 ^ (c + 1) * b := by
    rw [← Nat.div_lt_iff_lt_mul hb, ← digitCount_le]
    omega
  have hten : (0 : ℚ) < 10 ^ t := by positivity
  constructor
  · have hsplit : p - 1 = (c : ℤ) - t := by omega
    rw [hsplit, zpow_sub₀ (by norm_num), zpow_natCast, zpow_natCast, div_mul_eq_mul_div, div_le_iff₀ hten]
    exact_mod_cast hlow
  · have hsplit : p = ((c + 1 : ℕ) : ℤ) - t := by omega
    rw [hsplit, zpow_sub₀ (by norm_num), zpow_natCast, zpow_natCast, div_mul_eq_mul_div, lt_div_iff₀ hten]
    exact_mod_cast hhigh

theorem magnitudePosition_bounds (hpos : 0 < mantissa) {p : ℤ}
    (hp : magnitudePosition (readingInterval mantissa scale).value = p) :
    steps scale (10 ^ (p - 1)) ≤ mantissa ∧ mantissa < steps scale (10 ^ p) := by
  have hquarters : 0 < quartersPerOne := by exact_mod_cast quartersPerOne_pos
  have hstep : (0 : ℚ) < 4 * 2 ^ scale := by positivity
  have hvalue : 4 * 1 * 1 ≤ (readingInterval mantissa scale).value :=
    Nat.mul_le_mul (Nat.mul_le_mul_left 4 hpos) (Nat.pow_pos (by decide))
  have hsmall : quartersPerOne ≤ 4 * 1 * 1 * Nat.pow 10 400 := by decide +kernel
  have hcast : (400 : ℤ) = ((400 : ℕ) : ℤ) := rfl
  rw [magnitudePosition, hcast] at hp
  -- the power is not to be computed
  generalize (400 : ℕ) = t at hp hsmall
  rw [Nat.pow_eq] at hp hsmall
  obtain ⟨hlow, hhigh⟩ := quotient_bounds hquarters (Nat.le_trans hsmall (Nat.mul_le_mul_right _ hvalue)) hp
  rw [readingInterval_value, @quarters_eq scale] at hlow hhigh
  exact ⟨le_of_mul_le_mul_left hlow hstep, lt_of_mul_lt_mul_left hhigh (le_of_lt hstep)⟩

/-! ## The search -/

/-- Removing zeros does not change the value, and it makes no fraction. -/
theorem strip_spec (fuel : ℕ) (d : Decimal) :
    (strip fuel d).value = d.value ∧ d.exponent ≤ (strip fuel d).exponent := by
  induction fuel generalizing d with
  | zero => exact ⟨rfl, le_refl _⟩
  | succ fuel ih =>
    rw [strip]
    split
    · rename_i hzero
      obtain ⟨hvalue, hexponent⟩ := ih ⟨d.digits / 10, d.exponent + 1⟩
      refine ⟨?_, by simp only at hexponent; omega⟩
      have hdigits : (d.digits : ℚ) = 10 * (d.digits / 10 : ℕ) := by
        have : d.digits = 10 * (d.digits / 10) := by omega
        exact_mod_cast this
      rw [hvalue, value, value, hdigits, zpow_add_one₀ (by norm_num)]
      ring
    · exact ⟨rfl, le_refl _⟩

/-- The neighbours of a number with so many digits that neither is rounded to it. -/
structure Missed (mantissa scale : ℕ) (step : ℚ) (k : ℕ) : Prop where
  low : k * step ≤ mantissa
  high : mantissa < (k + 1 : ℕ) * step
  lower : ¬RoundsTo mantissa scale (k * step)
  upper : ¬RoundsTo mantissa scale ((k + 1 : ℕ) * step)

theorem steps_mul (p q : ℚ) : steps scale (p * q) = p * steps scale q := by
  rw [steps, steps]
  ring

/-- A decimal is found unless both neighbours of the number are missed. -/
theorem missed_of_decimal? (hpos : 0 < mantissa) {p : ℤ} {count : ℕ}
    (h : (readingInterval mantissa scale).decimal? tie p count = none) :
    ∃ k, Missed mantissa scale (steps scale (10 ^ (p - count))) k := by
  have hstep : (0 : ℚ) < 4 * 2 ^ scale := by positivity
  obtain ⟨k, hlow, hhigh, hlower, hupper⟩ := Interval.straddles_of_decimal? h
  rw [← mul_assoc] at hlow hhigh hlower hupper
  rw [readingInterval_value, @quarters_eq scale, steps_mul] at hlow hhigh
  rw [readingInterval_holds hpos, steps_mul] at hlower hupper
  exact ⟨k, le_of_mul_le_mul_left hlow hstep, lt_of_mul_lt_mul_left hhigh (le_of_lt hstep), hlower, hupper⟩

/-- Steps that miss a number are longer than the interval about it. -/
theorem Missed.room_lt {step : ℚ} {k : ℕ} (h : Missed mantissa scale step k) :
    1 / 2 + roomBelow mantissa scale ≤ step := by
  have hroom := @le_roomBelow mantissa scale
  have hlow := h.low
  have hhigh := h.high
  have hlower : k * step ≤ mantissa - roomBelow mantissa scale :=
    not_lt.1 fun hlt => h.lower (.of_lt hlt (by linarith))
  have hupper : mantissa + 1 / 2 ≤ (k + 1 : ℕ) * step :=
    not_lt.1 fun hlt => h.upper (.of_lt (by linarith) hlt)
  push_cast at hupper
  linarith

/-- With seventeen digits no number is missed. -/
theorem seventeen_digits (canonical : IsCanonical mantissa scale) (hpos : 0 < mantissa) (tie : Tie) :
    ∃ d, (readingInterval mantissa scale).decimal? tie
      (magnitudePosition (readingInterval mantissa scale).value) 17 = some d := by
  rw [← Option.ne_none_iff_exists']
  intro hnone
  obtain ⟨p, hp⟩ : ∃ p, magnitudePosition (readingInterval mantissa scale).value = p := ⟨_, rfl⟩
  rw [hp] at hnone
  obtain ⟨k, hmissed⟩ := missed_of_decimal? hpos hnone
  have hwide := hmissed.room_lt
  have hsmall : ((mantissa : ℚ) + 1) ≤ 2 ^ 53 := by exact_mod_cast canonical.1
  have hten : steps scale (10 ^ (p - 1)) = 10 ^ 16 * steps scale (10 ^ (p - (17 : ℕ))) := by
    have hsplit : p - 1 = (16 : ℕ) + (p - (17 : ℕ)) := by omega
    rw [hsplit, zpow_add₀ (by norm_num), zpow_natCast, steps, steps]
    ring
  have hlow := (magnitudePosition_bounds hpos hp).1
  rw [hten] at hlow
  rw [roomBelow] at hwide
  split at hwide
  · rename_i hpower
    rw [hpower.1] at hlow
    norm_num at hlow
    linarith
  · norm_num at hlow hsmall
    linarith

/-- A number that is so many steps is not missed. -/
theorem not_missed_of_mul {step : ℚ} {n k : ℕ} (hstep : 0 < step) (hn : n * step = mantissa) :
    ¬Missed mantissa scale step k := by
  rintro ⟨hlow, hhigh, hlower, -⟩
  rw [← hn] at hlow hhigh
  have hle : k ≤ n := by exact_mod_cast le_of_mul_le_mul_right hlow hstep
  have hlt : n < k + 1 := by exact_mod_cast lt_of_mul_lt_mul_right hhigh (le_of_lt hstep)
  obtain rfl : k = n := by omega
  exact hlower (by rw [hn]; exact .self)

/-- A search through the numbers below a bound finds the first. -/
theorem findSome?_range {α : Type} {f : ℕ → Option α} {n : ℕ} {x : α}
    (h : (List.range n).findSome? f = some x) : ∃ k < n, f k = some x ∧ ∀ j < k, f j = none := by
  induction n with
  | zero => cases h
  | succ n ih =>
    rw [List.range_succ, List.findSome?_append] at h
    cases hbefore : (List.range n).findSome? f with
    | some y =>
      rw [hbefore] at h
      cases h
      obtain ⟨k, hk, hfound⟩ := ih hbefore
      exact ⟨k, Nat.lt_succ_of_lt hk, hfound⟩
    | none =>
      rw [hbefore, Option.none_or, List.findSome?_singleton] at h
      refine ⟨n, Nat.lt_succ_self n, h, fun j hj => ?_⟩
      exact List.findSome?_eq_none_iff.1 hbefore j (List.mem_range.2 hj)

/-- The shortest decimal has the first count of digits with which one is found. -/
theorem exists_shortest (canonical : IsCanonical mantissa scale) (hpos : 0 < mantissa) (tie : Tie) {p : ℤ}
    (hp : magnitudePosition (readingInterval mantissa scale).value = p) :
    ∃ d count, shortest tie mantissa scale = strip 20 d ∧ count ≤ 17 ∧
      (readingInterval mantissa scale).decimal? tie p count = some d ∧
      ∀ fewer, 0 < fewer → fewer < count → (readingInterval mantissa scale).decimal? tie p fewer = none := by
  obtain ⟨d, hd⟩ : ∃ d, (List.range 17).findSome?
      (fun k => (readingInterval mantissa scale).decimal? tie p (k + 1)) = some d := by
    rw [← Option.ne_none_iff_exists', ne_eq, List.findSome?_eq_none_iff]
    intro hnone
    obtain ⟨d, hd⟩ := seventeen_digits canonical hpos tie
    rw [hp, hnone 16 (by decide)] at hd
    cases hd
  have hshortest : shortest tie mantissa scale = strip 20 d := by
    simp only [shortest, hp, hd, Option.getD_some]
  obtain ⟨k, hk, hfound, hfirst⟩ := findSome?_range hd
  refine ⟨d, k + 1, hshortest, hk, hfound, fun fewer hfewer hlt => ?_⟩
  obtain ⟨j, rfl⟩ := Nat.exists_eq_succ_of_ne_zero (Nat.ne_of_gt hfewer)
  exact hfirst j (by omega)

/-- **Shortest decimals are read back.** The decimal that stands for a number is rounded to it. -/
theorem roundsTo_shortest (canonical : IsCanonical mantissa scale) (hpos : 0 < mantissa) (tie : Tie) :
    RoundsTo mantissa scale (steps scale (shortest tie mantissa scale).value) := by
  obtain ⟨d, count, hshortest, -, hd, -⟩ := exists_shortest canonical hpos tie rfl
  rw [hshortest, (strip_spec 20 d).1, ← readingInterval_holds hpos]
  exact (Interval.holds_of_decimal? hd).2

theorem steps_one_pos : 0 < steps scale 1 := by
  rw [steps, one_mul]
  exact div_pos Binary64.unitsPerOne_pos (by positivity)

/-- An integer has digits before the point. -/
theorem magnitudePosition_pos (hpos : 0 < mantissa) {n : ℕ} (hn : n * steps scale 1 = mantissa) {p : ℤ}
    (hp : magnitudePosition (readingInterval mantissa scale).value = p) : 0 < p := by
  have hone : 1 ≤ n := by
    rw [Nat.one_le_iff_ne_zero]
    rintro rfl
    rw [Nat.cast_zero, zero_mul] at hn
    exact absurd hn.symm (by exact_mod_cast Nat.ne_of_gt hpos)
  have hlt := (magnitudePosition_bounds hpos hp).2
  rw [← hn, ← mul_one (10 ^ p), steps_mul] at hlt
  have hlt : (n : ℚ) < 10 ^ p := lt_of_mul_lt_mul_right hlt (le_of_lt steps_one_pos)
  rw [← one_lt_zpow_iff_right₀ (by norm_num : (1 : ℚ) < 10)]
  exact lt_of_le_of_lt (by exact_mod_cast hone) hlt

/-- The decimal of an integer has no fraction. -/
theorem exponent_shortest_nonneg (canonical : IsCanonical mantissa scale) (hpos : 0 < mantissa) (tie : Tie)
    {n : ℕ} (hn : n * Binary64.unitsPerOne = mantissa * 2 ^ scale) :
    0 ≤ (shortest tie mantissa scale).exponent := by
  obtain ⟨p, hp⟩ : ∃ p, magnitudePosition (readingInterval mantissa scale).value = p := ⟨_, rfl⟩
  obtain ⟨d, count, hshortest, hcount, hd, hfewer⟩ := exists_shortest canonical hpos tie hp
  have hexact : n * steps scale 1 = mantissa := by
    have : (n : ℚ) * Binary64.unitsPerOne = mantissa * 2 ^ scale := by exact_mod_cast hn
    rw [← steps_mul, mul_one, steps, this, mul_div_cancel_right₀ _ (by positivity)]
  have hp_pos := magnitudePosition_pos hpos hexact hp
  rw [hshortest]
  refine le_trans ?_ (strip_spec 20 d).2
  rw [(Interval.holds_of_decimal? hd).1]
  by_contra hneg
  -- with as many digits as it has before the point the integer itself would have been found
  obtain ⟨digits, rfl⟩ := Int.eq_ofNat_of_zero_le (le_of_lt hp_pos)
  obtain ⟨k, hmissed⟩ := missed_of_decimal? hpos (hfewer digits (by omega) (by omega))
  rw [sub_self, zpow_zero] at hmissed
  exact not_missed_of_mul steps_one_pos hexact hmissed

end

end BlockPilot.Decimal
