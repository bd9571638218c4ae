import BlockPilot.Binary64
import Mathlib.Algebra.Order.Field.Rat
import Mathlib.Algebra.Order.Group.Abs
import Mathlib.Tactic.FieldSimp
import Mathlib.Tactic.Linarith
import Mathlib.Tactic.Ring

/-!
# Exact values

The value of a finite number is a rational number (`Binary64.value?`). The order of the numbers and what
counts as an integer are those of their values (`Binary64.lt_iff`, `Binary64.toInt?_eq_some`), and
rounding half to even gives the nearest natural number, of two the even one (`IsNearest`), of which there
is only one.
-/

namespace BlockPilot

/-! ## Rounding -/

/-- A natural number that no other is nearer to `q` than, and an even one if it is not alone in that. -/
structure IsNearest (q : ℚ) (n : ℕ) : Prop where
  near : |(n : ℚ) - q| ≤ 1 / 2
  even : |(n : ℚ) - q| = 1 / 2 → n % 2 = 0

/-- Of two rational numbers the greater is rounded to the greater natural number. -/
theorem IsNearest.mono {p q : ℚ} {m n : ℕ} (hm : IsNearest p m) (hn : IsNearest q n) (h : p ≤ q) : m ≤ n := by
  obtain ⟨hmlow, hmhigh⟩ := abs_le.1 hm.near
  obtain ⟨hnlow, hnhigh⟩ := abs_le.1 hn.near
  by_contra hlt
  have hsucc : ((n : ℚ) + 1) ≤ m := by exact_mod_cast Nat.lt_of_not_le hlt
  -- then both are just between two natural numbers, and both of these are even
  have hm' : |(m : ℚ) - p| = 1 / 2 := by
    rw [show (m : ℚ) - p = 1 / 2 by linarith]
    norm_num
  have hn' : |(n : ℚ) - q| = 1 / 2 := by
    rw [show (n : ℚ) - q = -(1 / 2) by linarith]
    norm_num
  have hmn : (m : ℚ) = n + 1 := by linarith
  have hmn' : m = n + 1 := by exact_mod_cast hmn
  have := hm.even hm'
  have := hn.even hn'
  omega

theorem IsNearest.unique {q : ℚ} {m n : ℕ} (hm : IsNearest q m) (hn : IsNearest q n) : m = n :=
  Nat.le_antisymm (hm.mono hn (le_refl q)) (hn.mono hm (le_refl q))

theorem div_lt_half_iff {a b : ℕ} (hb : 0 < b) : (a : ℚ) / b < 1 / 2 ↔ 2 * a < b := by
  have hpos : (0 : ℚ) < b := by exact_mod_cast hb
  rw [div_lt_iff₀ hpos, one_div, lt_inv_mul_iff₀ (by norm_num)]
  exact_mod_cast Iff.rfl

theorem half_lt_div_iff {a b : ℕ} (hb : 0 < b) : 1 / 2 < (a : ℚ) / b ↔ b < 2 * a := by
  have hpos : (0 : ℚ) < b := by exact_mod_cast hb
  rw [lt_div_iff₀ hpos, one_div, inv_mul_lt_iff₀ (by norm_num)]
  exact_mod_cast Iff.rfl

/-- A quotient as its whole part and a fraction. -/
theorem quotient_eq (num : ℕ) {den : ℕ} (h : 0 < den) :
    (num : ℚ) / den = (num / den : ℕ) + ((num % den : ℕ) : ℚ) / den := by
  have hden : (den : ℚ) ≠ 0 := by exact_mod_cast Nat.ne_of_gt h
  have hnum : (num : ℚ) = den * (num / den : ℕ) + (num % den : ℕ) := by
    exact_mod_cast (Nat.div_add_mod num den).symm
  rw [div_eq_iff hden, add_mul, div_mul_cancel₀ _ hden, hnum]
  ring

theorem isNearest_roundHalfEven (num : ℕ) {den : ℕ} (h : 0 < den) :
    IsNearest ((num : ℚ) / den) (roundHalfEven num den) := by
  have hden : (0 : ℚ) < den := by exact_mod_cast h
  have hlow := @div_lt_half_iff (num % den) den h
  have hhigh := @half_lt_div_iff (num % den) den h
  have hnonneg : 0 ≤ ((num % den : ℕ) : ℚ) / den := div_nonneg (Nat.cast_nonneg _) (le_of_lt hden)
  have hone : ((num % den : ℕ) : ℚ) / den < 1 := by
    rw [div_lt_iff₀ hden, one_mul]
    exact_mod_cast Nat.mod_lt num h
  rw [quotient_eq num h, roundHalfEven]
  generalize ((num % den : ℕ) : ℚ) / den = fraction at hlow hhigh hnonneg hone ⊢
  -- which neighbour is taken is decided by the fraction against one half
  split
  · rename_i hdown
    have hdown := hlow.2 hdown
    refine ⟨?_, fun heq => ?_⟩
    · rw [abs_le]
      constructor <;> linarith
    · rw [abs_of_nonpos (by linarith)] at heq
      linarith
  · rename_i hdown
    split
    · rename_i hup
      have hup := hhigh.2 hup
      refine ⟨?_, fun heq => ?_⟩
      · rw [abs_le]
        push_cast
        constructor <;> linarith
      · push_cast at heq
        rw [abs_of_nonneg (by linarith)] at heq
        linarith
    · rename_i hup
      have htie : fraction = 1 / 2 :=
        le_antisymm (not_lt.1 fun hlt => hup (hhigh.1 hlt)) (not_lt.1 fun hlt => hdown (hlow.1 hlt))
      rw [htie]
      refine ⟨?_, fun _ => by omega⟩
      rcases Nat.mod_two_eq_zero_or_one (num / den) with heven | hodd
      · rw [heven, abs_le]
        push_cast
        constructor <;> linarith
      · rw [hodd, abs_le]
        push_cast
        constructor <;> linarith

/-- Rounding gives the one that is nearest. -/
theorem roundHalfEven_eq {num den n : ℕ} (h : 0 < den) (hn : IsNearest ((num : ℚ) / den) n) :
    roundHalfEven num den = n :=
  (isNearest_roundHalfEven num h).unique hn

/-! ## Values of numbers -/

namespace Binary64

theorem unitsPerOne_pos : (0 : ℚ) < unitsPerOne := by
  have : 0 < unitsPerOne := by decide +kernel
  exact_mod_cast this

/-- The exact value of a finite number. -/
def value? (x : Binary64) : Option ℚ :=
  x.units?.map fun (units : ℤ) => (units : ℚ) / unitsPerOne

variable {x y : Binary64} {p q : ℚ}

theorem value?_eq_some :
    x.value? = some q ↔ ∃ units : ℤ, x.units? = some units ∧ q * unitsPerOne = units := by
  have := unitsPerOne_pos
  rw [value?, Option.map_eq_some_iff]
  constructor
  · rintro ⟨units, hunits, rfl⟩
    exact ⟨units, hunits, by field_simp⟩
  · rintro ⟨units, hunits, hq⟩
    refine ⟨units, hunits, ?_⟩
    rw [← hq]
    field_simp

theorem isFinite_iff : x.isFinite = true ↔ ∃ q, x.value? = some q := by
  rw [isFinite, value?]
  cases x.units? with
  | none =>
    constructor
    · intro h
      cases h
    · rintro ⟨q, h⟩
      cases h
  | some units => exact iff_of_true rfl ⟨_, rfl⟩

/-- A number is an integer if its value is one. -/
theorem toInt?_eq_some {n : ℤ} : x.toInt? = some n ↔ x.value? = some (n : ℚ) := by
  have hpos : (0 : ℤ) < unitsPerOne := by exact_mod_cast unitsPerOne_pos
  rw [value?_eq_some, toInt?]
  cases x.units? with
  | none =>
    constructor
    · intro h
      cases h
    · rintro ⟨units, h, -⟩
      cases h
  | some units =>
    simp only [Option.some.injEq, exists_eq_left']
    constructor
    · intro h
      split at h
      · rename_i hmod
        cases h
        have hexact : units / unitsPerOne * unitsPerOne = units :=
          Int.ediv_mul_cancel (Int.dvd_of_emod_eq_zero hmod)
        exact_mod_cast hexact
      · cases h
    · intro h
      have hexact : n * unitsPerOne = units := by exact_mod_cast h
      rw [← hexact, if_pos (Int.mul_emod_left _ _), Int.mul_ediv_cancel _ hpos.ne']

theorem toInt?_eq_none : x.toInt? = none ↔ ∀ n : ℤ, x.value? ≠ some (n : ℚ) := by
  rw [Option.eq_none_iff_forall_ne_some]
  exact forall_congr' fun n => not_congr toInt?_eq_some

/-- The order of finite numbers is that of their values. -/
theorem lt_iff (hx : x.value? = some p) (hy : y.value? = some q) : x.lt y = true ↔ p < q := by
  have := unitsPerOne_pos
  obtain ⟨ux, hux, hp⟩ := value?_eq_some.1 hx
  obtain ⟨uy, huy, hq⟩ := value?_eq_some.1 hy
  have hlt : x.lt y = decide (ux < uy) := by
    cases x with
    | nan | infinite => cases hux
    | finite =>
      cases y with
      | nan | infinite => cases huy
      | finite => rw [lt, hux, huy, Option.getD_some, Option.getD_some]
  rw [hlt, decide_eq_true_iff]
  constructor
  · intro h
    have : (ux : ℚ) < uy := by exact_mod_cast h
    rw [← hp, ← hq] at this
    exact lt_of_mul_lt_mul_right this (le_of_lt unitsPerOne_pos)
  · intro h
    have : (ux : ℚ) < uy := by
      rw [← hp, ← hq]
      exact mul_lt_mul_of_pos_right h unitsPerOne_pos
    exact_mod_cast this

end Binary64

end BlockPilot
