import BlockPilot.Decimal.Reading
import BlockPilot.Proofs.ExactValue
import BlockPilot.Proofs.FiniteNumbers
import Mathlib.Algebra.Order.Field.Power
import Mathlib.Tactic.Positivity

/-!
# The nearest number

Which rational numbers are rounded to a given number (`RoundsTo`), counted in steps of its scale: those
within half a step, but below a power of two, where the steps are half as long, those within a quarter of
one. Each of them, as a quotient or as a decimal, gives that number (`Binary64.ofRatio_of_roundsTo`,
`Binary64.ofDecimal_of_roundsTo`), so a number is given by its own exact value.
-/

namespace BlockPilot

/-! ## Decimals -/

theorem digitCount_le {n k : ℕ} : digitCount n ≤ k ↔ n < 10 ^ k := by
  unfold digitCount
  split
  · rename_i h
    subst h
    exact iff_of_true (Nat.zero_le k) (Nat.pow_pos (by decide))
  · rename_i h
    rcases Nat.eq_zero_or_pos k with rfl | hk
    · have : 0 < (Nat.toDigits 10 n).length := List.length_pos_iff.2 Nat.toDigits_ne_nil
      omega
    · exact Nat.length_toDigits_le_iff (by decide) hk

theorem tenPow_pos (k : ℤ) : (0 : ℚ) < 10 ^ k := zpow_pos (by norm_num) k

/-- The rational number that a decimal is. -/
def Decimal.value (d : Decimal) : ℚ := d.digits * 10 ^ d.exponent

/-- The position of the point says between which powers of ten a number lies. -/
theorem Decimal.value_bounds {d : Decimal} (h : 0 < d.digits) :
    (10 : ℚ) ^ (d.position - 1) ≤ d.value ∧ d.value < 10 ^ d.position := by
  have hpos : 0 < digitCount d.digits := by
    rw [Nat.pos_iff_ne_zero, ne_eq, ← Nat.le_zero, digitCount_le]
    omega
  obtain ⟨c, hc⟩ := Nat.exists_eq_succ_of_ne_zero (Nat.ne_of_gt hpos)
  have hlow : 10 ^ c ≤ d.digits := by
    rw [← not_lt, ← digitCount_le]
    omega
  have hhigh : d.digits < 10 ^ (c + 1) := digitCount_le.1 (Nat.le_of_eq hc)
  have hexponent := tenPow_pos d.exponent
  rw [position, value, hc]
  constructor
  · have hsplit : ((c.succ : ℕ) : ℤ) + d.exponent - 1 = c + d.exponent := by omega
    rw [hsplit, zpow_add₀ (by norm_num), zpow_natCast]
    exact mul_le_mul_of_nonneg_right (by exact_mod_cast hlow) (le_of_lt hexponent)
  · rw [zpow_add₀ (by norm_num), zpow_natCast]
    exact mul_lt_mul_of_pos_right (by exact_mod_cast hhigh) hexponent

/-! ## What is rounded to a number -/

/-- A rational number counted in steps of a scale. -/
def steps (scale : ℕ) (q : ℚ) : ℚ := q * Binary64.unitsPerOne / 2 ^ scale

/-- How far below a mantissa the rational numbers are still rounded to it, in steps. -/
def roomBelow (mantissa scale : ℕ) : ℚ :=
  if mantissa = Nat.pow 2 52 ∧ 0 < scale then 1 / 4 else 1 / 2

/-- So many steps are rounded to this mantissa; one that is just between two is rounded to the even one. -/
structure RoundsTo (mantissa scale : ℕ) (y : ℚ) : Prop where
  low : mantissa - roomBelow mantissa scale ≤ y
  high : y ≤ mantissa + 1 / 2
  even : y = mantissa - roomBelow mantissa scale ∨ y = mantissa + 1 / 2 → mantissa % 2 = 0

variable {mantissa scale num den : ℕ} {y q : ℚ}

theorem roomBelow_le : roomBelow mantissa scale ≤ 1 / 2 := by
  unfold roomBelow
  split <;> norm_num

theorem le_roomBelow : 1 / 4 ≤ roomBelow mantissa scale := by
  unfold roomBelow
  split <;> norm_num

theorem RoundsTo.of_lt (hlow : mantissa - roomBelow mantissa scale < y) (hhigh : y < mantissa + 1 / 2) :
    RoundsTo mantissa scale y := by
  refine ⟨le_of_lt hlow, le_of_lt hhigh, ?_⟩
  rintro (rfl | rfl)
  · exact absurd hlow (lt_irrefl _)
  · exact absurd hhigh (lt_irrefl _)

/-- A mantissa is rounded to itself. -/
theorem RoundsTo.self : RoundsTo mantissa scale mantissa := by
  have := @le_roomBelow mantissa scale
  exact .of_lt (by linarith) (by linarith)

theorem RoundsTo.isNearest (h : RoundsTo mantissa scale y) : IsNearest y mantissa := by
  have hroom := @roomBelow_le mantissa scale
  obtain ⟨hlow, hhigh, heven⟩ := h
  refine ⟨?_, fun heq => heven ?_⟩
  · rw [abs_le]
    constructor <;> linarith
  · rcases (abs_eq (by norm_num)).1 heq with hdown | hup
    · exact Or.inl (le_antisymm (by linarith) hlow)
    · exact Or.inr (by linarith)

/-- A finer scale has twice as many steps. -/
theorem steps_succ : steps scale q = 2 * steps (scale + 1) q := by
  rw [steps, steps, pow_succ]
  -- one is not to be computed in units
  generalize (Binary64.unitsPerOne : ℚ) = units
  field_simp

theorem steps_ratio (num den : ℕ) :
    steps scale (num / den) = ((num * Binary64.unitsPerOne : ℕ) : ℚ) / ((den * 2 ^ scale : ℕ) : ℚ) := by
  rw [steps]
  push_cast
  rw [div_mul_eq_mul_div, div_div]

namespace Binary64

/-! ## Quotients -/

/-- The scale of a quotient is the one at which it has 53 binary digits. -/
theorem bitLength_ratio (hden : 0 < den) (hhigh : steps scale (num / den) < 2 ^ 53)
    (hlow : scale = 0 ∨ 2 ^ 52 ≤ steps scale (num / den)) :
    bitLength (num * unitsPerOne / den) - 53 = scale := by
  have hpos : (0 : ℚ) < ((den * 2 ^ scale : ℕ) : ℚ) := by
    exact_mod_cast Nat.mul_pos hden (by positivity)
  rw [steps_ratio] at hhigh hlow
  have hhigh : bitLength (num * unitsPerOne / den) ≤ scale + 53 := by
    rw [div_lt_iff₀ hpos] at hhigh
    have : num * unitsPerOne < 2 ^ 53 * (den * 2 ^ scale) := by exact_mod_cast hhigh
    refine bitLength_le.2 (Nat.div_lt_of_lt_mul (Nat.lt_of_lt_of_eq this ?_))
    ring
  rcases hlow with rfl | hlow
  · omega
  · have : ¬bitLength (num * unitsPerOne / den) ≤ scale + 52 := by
      rw [le_div_iff₀ hpos] at hlow
      have : 2 ^ 52 * (den * 2 ^ scale) ≤ num * unitsPerOne := by exact_mod_cast hlow
      rw [bitLength_le, not_lt, Nat.le_div_iff_mul_le hden]
      refine Nat.le_trans (Nat.le_of_eq ?_) this
      ring
    omega

/-- A quotient is rounded to its nearest mantissa at its scale. -/
theorem ofRatio_eq (negative : Bool) (hden : 0 < den)
    (hscale : bitLength (num * unitsPerOne / den) - 53 = scale)
    (hnearest : IsNearest (steps scale (num / den)) mantissa) :
    ofRatio negative num den =
      if mantissa = Nat.pow 2 53 then pack negative (Nat.pow 2 52) (scale + 1)
      else pack negative mantissa scale := by
  rw [steps_ratio] at hnearest
  have hround : roundHalfEven (num * unitsPerOne) (den * Nat.pow 2 scale) = mantissa :=
    roundHalfEven_eq (Nat.mul_pos hden (Nat.pow_pos (by decide))) hnearest
  simp only [ofRatio, hscale, hround]

/-- Of the numbers that have a finer scale, only those just below a power of two are rounded to a number of
this scale, and they are rounded up to that power. -/
theorem isNearest_finer {finer : ℕ} (canonical : IsCanonical mantissa (finer + 1))
    (h : RoundsTo mantissa (finer + 1) y) (hbelow : y < 2 ^ 52) :
    mantissa = 2 ^ 52 ∧ 2 ^ 52 - 1 / 4 ≤ y ∧ IsNearest (2 * y) (2 ^ 53) := by
  have hfull : 2 ^ 52 ≤ mantissa := canonical.2.2.resolve_left (Nat.succ_ne_zero finer)
  have hlow := h.low
  have hmantissa : mantissa = 2 ^ 52 := by
    have hroom := @roomBelow_le mantissa (finer + 1)
    have : (mantissa : ℚ) < 2 ^ 52 + 1 := by linarith
    have : mantissa < 2 ^ 52 + 1 := by exact_mod_cast this
    omega
  rw [hmantissa, roomBelow, if_pos ⟨rfl, Nat.succ_pos finer⟩] at hlow
  push_cast at hlow
  refine ⟨hmantissa, hlow, ?_, fun _ => by norm_num⟩
  rw [abs_le]
  push_cast
  constructor <;> linarith

/-- A quotient that is rounded to a number gives it. -/
theorem ofRatio_of_roundsTo (canonical : IsCanonical mantissa scale) (negative : Bool) (hden : 0 < den)
    (h : RoundsTo mantissa scale (steps scale (num / den))) :
    ofRatio negative num den = .finite negative mantissa scale canonical := by
  have hsmall : ((mantissa : ℚ) + 1) ≤ 2 ^ 53 := by exact_mod_cast canonical.1
  by_cases hbelow : 0 < scale ∧ steps scale (num / den) < 2 ^ 52
  · obtain ⟨hpos, hlt⟩ := hbelow
    obtain ⟨finer, rfl⟩ := Nat.exists_eq_succ_of_ne_zero (Nat.ne_of_gt hpos)
    obtain ⟨rfl, hlow, hnearest⟩ := isNearest_finer canonical h hlt
    rw [← steps_succ] at hnearest
    have hsteps := @steps_succ finer (num / den)
    have hscale : bitLength (num * unitsPerOne / den) - 53 = finer :=
      bitLength_ratio hden (by linarith) (Or.inr (by linarith))
    rw [ofRatio_eq negative hden hscale hnearest]
    exact pack_canonical canonical negative
  · have hlow : scale = 0 ∨ 2 ^ 52 ≤ steps scale (num / den) := by
      rcases Nat.eq_zero_or_pos scale with hzero | hpos
      · exact Or.inl hzero
      · exact Or.inr (not_lt.1 fun hlt => hbelow ⟨hpos, hlt⟩)
    have hhigh := h.high
    have hscale := bitLength_ratio hden (by linarith) hlow
    have hne : mantissa ≠ Nat.pow 2 53 := by
      rintro rfl
      norm_num at hsmall
    rw [ofRatio_eq negative hden hscale h.isNearest, if_neg hne]
    exact pack_canonical canonical negative

/-! ## Decimals -/

/-- What is rounded to a number is not too small for its quotient to be computed. -/
theorem tenPow_le_of_roundsTo (hpos : 0 < mantissa) (h : RoundsTo mantissa scale (steps scale q)) :
    10 ^ (-330 : ℤ) ≤ q := by
  have hunits := unitsPerOne_pos
  have hstep : (0 : ℚ) < 2 ^ scale := by positivity
  have hmantissa : (1 : ℚ) ≤ mantissa := by exact_mod_cast hpos
  have hone : (1 : ℚ) ≤ 2 ^ scale := one_le_pow₀ (by norm_num)
  have hlow : 1 / 2 * 2 ^ scale ≤ q * unitsPerOne := by
    have hnear := (abs_le.1 h.isNearest.near).2
    rw [← le_div_iff₀ hstep]
    change _ ≤ steps scale q
    linarith
  have hq : 0 ≤ q := by
    by_contra hneg
    have := mul_neg_of_neg_of_pos (not_le.1 hneg) hunits
    linarith
  have hten : (2 : ℚ) * unitsPerOne ≤ 10 ^ (330 : ℤ) := by
    have : 2 * unitsPerOne ≤ 10 ^ 330 := by decide +kernel
    rw [zpow_ofNat]
    exact_mod_cast this
  rw [zpow_neg, inv_le_iff_one_le_mul₀ (tenPow_pos 330)]
  calc (1 : ℚ) ≤ q * (2 * unitsPerOne) := by linarith
    _ ≤ q * 10 ^ (330 : ℤ) := mul_le_mul_of_nonneg_left hten hq

/-- Nor is it too large. -/
theorem lt_tenPow_of_roundsTo (canonical : IsCanonical mantissa scale)
    (h : RoundsTo mantissa scale (steps scale q)) : q < 10 ^ (310 : ℤ) := by
  have hstep : (0 : ℚ) < 2 ^ scale := by positivity
  have hmantissa : ((mantissa : ℚ) + 1) ≤ 2 ^ 53 := by exact_mod_cast canonical.1
  have hhigh : q * unitsPerOne < 2 ^ 53 * 2 ^ scale := by
    have := h.high
    rw [← div_lt_iff₀ hstep]
    change steps scale q < _
    linarith
  have hscale : (2 : ℚ) ^ scale ≤ 2 ^ 2045 := pow_le_pow_right₀ (by norm_num) canonical.2.1
  have hten : (2 : ℚ) ^ 53 * 2 ^ 2045 ≤ 10 ^ (310 : ℤ) * unitsPerOne := by
    have : 2 ^ 53 * 2 ^ 2045 ≤ 10 ^ 310 * unitsPerOne := by decide +kernel
    rw [zpow_ofNat]
    exact_mod_cast this
  refine lt_of_mul_lt_mul_right (lt_of_lt_of_le hhigh (le_trans ?_ hten)) (le_of_lt unitsPerOne_pos)
  exact mul_le_mul_of_nonneg_left hscale (by norm_num)

/-- A decimal that is rounded to a number has its point where the quotient is computed. -/
theorem position_of_roundsTo {d : Decimal} (canonical : IsCanonical mantissa scale) (hpos : 0 < mantissa)
    (h : RoundsTo mantissa scale (steps scale d.value)) :
    0 < d.digits ∧ -330 ≤ d.position ∧ d.position ≤ 310 := by
  have hlow := tenPow_le_of_roundsTo hpos h
  have hhigh := lt_tenPow_of_roundsTo canonical h
  have hdigits : 0 < d.digits := by
    rw [Nat.pos_iff_ne_zero]
    intro hzero
    rw [Decimal.value, hzero, Nat.cast_zero, zero_mul] at hlow
    exact absurd hlow (not_le.2 (tenPow_pos _))
  obtain ⟨hbelow, habove⟩ := Decimal.value_bounds hdigits
  refine ⟨hdigits, ?_, ?_⟩
  · have := (zpow_lt_zpow_iff_right₀ (by norm_num)).1 (lt_of_le_of_lt hlow habove)
    omega
  · have := (zpow_lt_zpow_iff_right₀ (by norm_num)).1 (lt_of_le_of_lt hbelow hhigh)
    omega

/-- A decimal that is rounded to a number gives it. -/
theorem ofDecimal_of_roundsTo {d : Decimal} (canonical : IsCanonical mantissa scale) (negative : Bool)
    (hpos : 0 < mantissa) (h : RoundsTo mantissa scale (steps scale d.value)) :
    ofDecimal negative d = .finite negative mantissa scale canonical := by
  obtain ⟨hdigits, hlow, hhigh⟩ := position_of_roundsTo canonical hpos h
  rw [ofDecimal, if_neg (by omega), if_neg (by omega), if_neg (by omega)]
  split
  · rename_i hexponent
    refine ofRatio_of_roundsTo canonical negative Nat.one_pos ?_
    obtain ⟨e, he⟩ := Int.eq_ofNat_of_zero_le hexponent
    rw [Decimal.value, he, zpow_natCast] at h
    rw [he, Int.toNat_natCast, Nat.pow_eq]
    push_cast
    rwa [div_one]
  · rename_i hexponent
    refine ofRatio_of_roundsTo canonical negative (Nat.pow_pos (by decide)) ?_
    obtain ⟨e, he⟩ := Int.eq_ofNat_of_zero_le (by omega : 0 ≤ -d.exponent)
    have hinverse : d.exponent = -(e : ℤ) := by omega
    rw [Decimal.value, hinverse, zpow_neg, zpow_natCast, ← div_eq_mul_inv] at h
    rw [he, Int.toNat_natCast, Nat.pow_eq]
    push_cast
    exact h

/-- The exact value of a number is rounded to it. -/
theorem roundsTo_exact (h : q * unitsPerOne = mantissa * 2 ^ scale) :
    RoundsTo mantissa scale (steps scale q) := by
  have hexact : steps scale q = mantissa := by
    rw [steps, h, mul_div_cancel_right₀ _ (by positivity)]
  rw [hexact]
  exact .self

end Binary64

end BlockPilot
