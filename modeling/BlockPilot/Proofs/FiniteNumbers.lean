import BlockPilot.Json.Scan
import Mathlib.Algebra.Group.Nat.Defs

/-!
# Finite numbers

A quotient below the largest number is rounded to a finite number near it (`ofRatio_finite`). So the
numbers that count something are finite (`isFinite_ofNat`), and so is every number in a JSON text: a
product that is too large is a fault, and a division by a power of ten makes no number larger
(`isFinite_of_scaleByTen`).
-/

namespace BlockPilot

theorem bitLength_le {n k : Nat} : bitLength n ≤ k ↔ n < 2 ^ k := by
  unfold bitLength
  split
  · rename_i h
    subst h
    exact iff_of_true (Nat.zero_le k) (Nat.pow_pos (by decide))
  · rename_i h
    exact Nat.log2_lt h

theorem le_roundHalfEven (num den : Nat) : num / den ≤ roundHalfEven num den := by
  unfold roundHalfEven
  simp only
  split
  · omega
  · split <;> omega

theorem roundHalfEven_le (num den : Nat) : roundHalfEven num den ≤ num / den + 1 := by
  unfold roundHalfEven
  simp only
  split
  · omega
  · split <;> omega

namespace Binary64

/-! ## Rounding a quotient -/

/-- How many units the largest finite number has. -/
def largest : Nat := (2 ^ 53 - 1) * 2 ^ 2045

/-- At this scale `q` units have just the digits that a mantissa holds. -/
structure Fitting (q scale : Nat) : Prop where
  below : q / 2 ^ scale < 2 ^ 53
  full : scale = 0 ∨ 2 ^ 52 ≤ q / 2 ^ scale
  in_range : scale ≤ 2045
  /-- At the largest scale there is room left for rounding up. -/
  top : scale = 2045 → q / 2 ^ scale + 1 < 2 ^ 53

theorem fitting_bitLength {q : Nat} (h : q < largest) : Fitting q (bitLength q - 53) := by
  have hbits : bitLength q ≤ 2098 := bitLength_le.2 (Nat.lt_trans h (by decide +kernel))
  constructor
  · refine Nat.div_lt_of_lt_mul ?_
    rw [← Nat.pow_add, ← bitLength_le]
    omega
  · rcases Nat.eq_zero_or_pos (bitLength q - 53) with hzero | hpos
    · exact Or.inl hzero
    · refine Or.inr ?_
      rw [Nat.le_div_iff_mul_le (Nat.pow_pos (by decide)), ← Nat.pow_add, ← Nat.not_lt, ← bitLength_le]
      omega
  · omega
  · intro heq
    rw [largest, ← heq, Nat.mul_comm] at h
    exact Nat.lt_of_le_of_lt (Nat.div_lt_of_lt_mul h) (by decide)

theorem pack_canonical {mantissa scale : Nat} (h : IsCanonical mantissa scale) (negative : Bool) :
    pack negative mantissa scale = .finite negative mantissa scale h :=
  dif_pos h

section

variable {q scale : Nat}

/-- Whichever way the digits are rounded, they make a finite number. -/
theorem Fitting.pack {r : Nat} (h : Fitting q scale) (hle : q / 2 ^ scale ≤ r)
    (hge : r ≤ q / 2 ^ scale + 1) (negative : Bool) :
    ∃ mantissa scale' canonical,
      (if r = 2 ^ 53 then pack negative (2 ^ 52) (scale + 1) else pack negative r scale) =
        .finite negative mantissa scale' canonical ∧ mantissa * 2 ^ scale' = r * 2 ^ scale := by
  obtain ⟨hbelow, hfull, hrange, htop⟩ := h
  split
  · rename_i heq
    have canonical : IsCanonical (2 ^ 52) (scale + 1) :=
      ⟨by decide, by omega, Or.inr (Nat.le_refl _)⟩
    refine ⟨_, _, canonical, pack_canonical canonical negative, ?_⟩
    rw [heq, ← Nat.pow_add, ← Nat.pow_add]
    congr 1
    omega
  · rename_i hne
    have canonical : IsCanonical r scale := by
      simp only [IsCanonical, Nat.pow_eq]
      omega
    exact ⟨_, _, canonical, pack_canonical canonical negative, rfl⟩

theorem Fitting.pow_scale_le (h : Fitting q scale) : 2 ^ scale ≤ q + 1 := by
  rcases h.full with hzero | hfull
  · simp [hzero]
  · have hone : 1 * 2 ^ scale ≤ q / 2 ^ scale * 2 ^ scale := Nat.mul_le_mul_right _ (by omega)
    have : q / 2 ^ scale * 2 ^ scale ≤ q := Nat.div_mul_le_self ..
    omega

/-- Cutting off digits loses no power of two. -/
theorem Fitting.pow_le (h : Fitting q scale) {k : Nat} (hk : 2 ^ k ≤ q) :
    2 ^ k ≤ q / 2 ^ scale * 2 ^ scale := by
  rcases Nat.lt_or_ge k scale with hlt | hge
  · have hpow : 2 ^ k ≤ 2 ^ scale := Nat.pow_le_pow_right (by decide) (Nat.le_of_lt hlt)
    have hfull := h.full
    have : 1 * 2 ^ scale ≤ q / 2 ^ scale * 2 ^ scale := Nat.mul_le_mul_right _ (by omega)
    omega
  · have hsplit : 2 ^ k = 2 ^ (k - scale) * 2 ^ scale := by rw [← Nat.pow_add, Nat.sub_add_cancel hge]
    rw [hsplit]
    refine Nat.mul_le_mul_right _ ?_
    rwa [Nat.le_div_iff_mul_le (Nat.pow_pos (by decide)), ← hsplit]

end

/-- A quotient of `q` units becomes a finite number of about as many, if they are not too many. -/
theorem ofRatio_finite {num den q : Nat} (hq : num * unitsPerOne / den = q) (h : q < largest)
    (negative : Bool) :
    ∃ mantissa scale canonical, ofRatio negative num den = .finite negative mantissa scale canonical ∧
      mantissa * 2 ^ scale ≤ 2 * q + 1 ∧ ∀ k, 2 ^ k ≤ q → 2 ^ k ≤ mantissa * 2 ^ scale := by
  have fitting := fitting_bitLength h
  have hdiv : num * unitsPerOne / (den * 2 ^ (bitLength q - 53)) = q / 2 ^ (bitLength q - 53) := by
    rw [← Nat.div_div_eq_div_mul, hq]
  have hle := le_roundHalfEven (num * unitsPerOne) (den * 2 ^ (bitLength q - 53))
  have hge := roundHalfEven_le (num * unitsPerOne) (den * 2 ^ (bitLength q - 53))
  rw [hdiv] at hle hge
  obtain ⟨mantissa, scale, canonical, hpack, hsize⟩ := fitting.pack hle hge negative
  refine ⟨mantissa, scale, canonical, ?_, ?_, fun k hk => ?_⟩
  · rw [← hpack]
    simp only [ofRatio, hq, Nat.pow_eq]
  · have hround := Nat.mul_le_mul_right (2 ^ (bitLength q - 53)) hge
    have hcut : q / 2 ^ (bitLength q - 53) * 2 ^ (bitLength q - 53) ≤ q := Nat.div_mul_le_self ..
    have hscale := fitting.pow_scale_le
    rw [Nat.add_mul] at hround
    omega
  · rw [hsize]
    exact Nat.le_trans (fitting.pow_le hk) (Nat.mul_le_mul_right _ hle)

theorem isFinite_ofRatio {num den : Nat} (h : num * unitsPerOne / den < largest) (negative : Bool) :
    (ofRatio negative num den).isFinite = true := by
  obtain ⟨_, _, _, hratio, -⟩ := ofRatio_finite rfl h negative
  rw [hratio]
  rfl

/-! ## Numbers that count -/

/-- An integer of 64 bits, as the nearest number. -/
theorem isFinite_ofRatio_natural {n : Nat} (h : n ≤ UInt64.size) (negative : Bool) :
    (ofRatio negative n 1).isFinite = true := by
  refine isFinite_ofRatio ?_ negative
  rw [Nat.div_one]
  exact Nat.lt_of_le_of_lt (Nat.mul_le_mul_right _ h) (by decide +kernel)

theorem isFinite_ofNat {n : Nat} (h : n ≤ UInt64.size) : (ofNat n).isFinite = true :=
  isFinite_ofRatio_natural h false

theorem isFinite_ofInt {n : Int} (h : n.natAbs ≤ UInt64.size) : (ofInt n).isFinite = true :=
  isFinite_ofRatio_natural h _

@[simp] theorem isFinite_neg (x : Binary64) : x.neg.isFinite = x.isFinite := by
  cases x <;> rfl

/-! ## Powers of ten -/

theorem exists_eight_mul_unitsPerOne : ∃ j, 8 * unitsPerOne = 2 ^ j :=
  ⟨3 + 1074, by decide +kernel⟩

/-- The powers of ten by which a number is scaled are finite. -/
theorem ofNat_tenPow {k : Nat} (hk : k ≤ 308) :
    ∃ mantissa scale canonical, ofNat (Nat.pow 10 k) = .finite false mantissa scale canonical ∧
      ∀ j, 2 ^ j ≤ Nat.pow 10 k * unitsPerOne → 2 ^ j ≤ mantissa * 2 ^ scale := by
  have hlarge : Nat.pow 10 k * unitsPerOne < largest :=
    Nat.lt_of_le_of_lt (Nat.mul_le_mul_right _ (Nat.pow_le_pow_right (by decide) hk)) (by decide +kernel)
  have hwhole : Nat.pow 10 k * unitsPerOne / 1 = Nat.pow 10 k * unitsPerOne := Nat.div_one _
  obtain ⟨mantissa, scale, canonical, hratio, -, hlow⟩ := ofRatio_finite hwhole hlarge false
  exact ⟨mantissa, scale, canonical, hratio, hlow⟩

/-- A finite number of no more than `bound` units. -/
def AtMost (bound : Nat) : Binary64 → Prop
  | .finite _ mantissa scale _ => mantissa * 2 ^ scale ≤ bound
  | .nan | .infinite _ => False

theorem AtMost.isFinite {bound : Nat} {x : Binary64} (h : x.AtMost bound) : x.isFinite = true := by
  cases x with
  | nan | infinite => exact h.elim
  | finite => rfl

/-- A quotient is finite unless it is too large. -/
theorem isFinite_or_infinite (negative : Bool) (num den : Nat) :
    (ofRatio negative num den).isFinite = true ∨ ofRatio negative num den = .infinite negative := by
  have packed {mantissa scale : Nat} :
      (pack negative mantissa scale).isFinite = true ∨ pack negative mantissa scale = .infinite negative := by
    unfold pack
    split
    · exact Or.inl rfl
    · exact Or.inr rfl
  unfold ofRatio
  simp only
  split <;> exact packed

/-- And so is a product of finite numbers. -/
theorem isFinite_mul {x y : Binary64} (hx : x.isFinite = true) (hy : y.isFinite = true)
    (h : ∀ negative, x.mul y ≠ .infinite negative) : (x.mul y).isFinite = true := by
  cases x with
  | nan | infinite => cases hx
  | finite a m s _ =>
    cases y with
    | nan | infinite => cases hy
    | finite b n t _ =>
      rw [mul] at h ⊢
      exact (isFinite_or_infinite ..).resolve_right (h _)

/-- A quotient by eight or more times `u` is no more than an eighth. -/
theorem mul_div_le_eighth {a bound u d : Nat} (hu : 0 < u) (hd : 8 * u ≤ d) (ha : a ≤ bound) :
    a * u / d ≤ bound / 8 := by
  refine Nat.le_trans (Nat.div_le_div_left hd (by omega)) ?_
  rw [Nat.mul_div_mul_right _ _ hu]
  exact Nat.div_le_div_right ha

/-- A division by a power of ten makes a number no larger. -/
theorem AtMost.div_tenPow {bound k : Nat} {x : Binary64} (h : x.AtMost bound) (hpos : 1 ≤ k) (hk : k ≤ 308)
    (hlow : 2 ≤ bound) (hlarge : bound < largest) : (x.div (ofNat (Nat.pow 10 k))).AtMost bound := by
  obtain ⟨n, t, canonical, hten, hten_low⟩ := ofNat_tenPow hk
  cases x with
  | nan | infinite => exact h.elim
  | finite a m s canonical' =>
    have hunits : 0 < unitsPerOne := by decide +kernel
    have hten_ge : 8 * unitsPerOne ≤ n * 2 ^ t := by
      obtain ⟨j, hj⟩ := exists_eight_mul_unitsPerOne
      rw [hj]
      refine hten_low j ?_
      rw [← hj]
      refine Nat.mul_le_mul_right _ ?_
      exact Nat.le_trans (by decide) (Nat.pow_le_pow_right (by decide) hpos : 10 ^ 1 ≤ 10 ^ k)
    have hn : n ≠ 0 := by
      rintro rfl
      rw [Nat.zero_mul] at hten_ge
      exact absurd hten_ge (Nat.not_le.2 (Nat.mul_pos (by decide) hunits))
    obtain ⟨q, hq⟩ : ∃ q, m * 2 ^ s * unitsPerOne / (n * 2 ^ t) = q := ⟨_, rfl⟩
    have hquotient : q ≤ bound / 8 := by
      rw [← hq]
      exact mul_div_le_eighth hunits hten_ge h
    obtain ⟨mantissa, scale, _, hratio, hle, -⟩ := ofRatio_finite hq (by omega) (a != false)
    have hsize : mantissa * 2 ^ scale ≤ bound := by omega
    have hdiv : (Binary64.finite a m s canonical').div (.finite false n t canonical) =
        ofRatio (a != false) (m * 2 ^ s) (n * 2 ^ t) := if_neg hn
    rw [hten, hdiv, hratio]
    exact hsize

end Binary64

namespace Json

/-- Scaling a small number by a power of ten gives a finite number or a fault. -/
theorem isFinite_scaleByTen {bound : Nat} {x y : Binary64} {exponent : Int} (hx : x.AtMost bound)
    (hlow : 2 ≤ bound) (hlarge : bound < Binary64.largest) (h : scaleByTen x exponent = .ok y) :
    y.isFinite = true := by
  fun_induction scaleByTen x exponent with
  | case1 =>
    cases h
    exact hx.isFinite
  | case2 => cases h
  | case3 => cases h
  | case4 x exponent hle hpos hne =>
    cases h
    obtain ⟨_, _, _, hten, -⟩ := Binary64.ofNat_tenPow (k := exponent.toNat) (by omega)
    refine Binary64.isFinite_mul hx.isFinite ?_ fun negative heq => hne negative heq
    rw [hten]
    rfl
  | case5 x exponent hle hneg hge =>
    cases h
    exact (hx.div_tenPow (by omega) (by omega) hlow hlarge).isFinite
  | case6 =>
    cases h
    exact hx.isFinite
  | case7 x exponent hle hneg hlt hne ih =>
    -- the power is not to be computed
    generalize hk : (308 : Nat) = k at ih h
    exact ih (hx.div_tenPow (by omega) (by omega) hlow hlarge) h

/-- Digits that fit in 64 bits, scaled by a power of ten, are a finite number or a fault. -/
theorem isFinite_of_scaleByTen {n : Nat} {y : Binary64} {exponent : Int} (hn : n ≤ UInt64.size)
    (h : scaleByTen (.ofNat n) exponent = .ok y) : y.isFinite = true := by
  obtain ⟨bound, hbound, hlow, hlarge⟩ : ∃ bound, 2 * (UInt64.size * Binary64.unitsPerOne) + 1 ≤ bound ∧
      2 ≤ bound ∧ bound < Binary64.largest := ⟨_, Nat.le_refl _, by decide +kernel, by decide +kernel⟩
  have hunits : n * Binary64.unitsPerOne ≤ UInt64.size * Binary64.unitsPerOne := Nat.mul_le_mul_right _ hn
  have hwhole : n * Binary64.unitsPerOne / 1 = n * Binary64.unitsPerOne := Nat.div_one _
  obtain ⟨mantissa, scale, canonical, hratio, hle, -⟩ :=
    Binary64.ofRatio_finite hwhole (by omega) false
  have hsize : mantissa * 2 ^ scale ≤ bound := by omega
  have hsmall : (Binary64.ofNat n).AtMost bound := by
    rw [Binary64.ofNat, hratio]
    exact hsize
  exact isFinite_scaleByTen hsmall hlow hlarge h

end Json

end BlockPilot
