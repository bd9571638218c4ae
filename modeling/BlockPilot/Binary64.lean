/-!
# Binary64 numbers

The numbers of the 64-bit binary interchange format, kept as exact values: a finite number is a
sign, a mantissa and a scale, and its magnitude is `mantissa * 2 ^ scale` *units*, where one unit
is the smallest positive number, `2 ^ -1074`. Every operation computes an exact quotient of
naturals and rounds it once, to the nearest number with ties to the even mantissa
(`Binary64.ofRatio`).
-/

namespace BlockPilot

/-- The mantissa and scale by which a magnitude is written in one way only: 53 bits, full unless
the scale is the smallest, and no scale beyond that of the largest finite number. -/
def IsCanonical (mantissa scale : Nat) : Prop :=
  mantissa < Nat.pow 2 53 ∧ scale ≤ 2045 ∧ (scale = 0 ∨ Nat.pow 2 52 ≤ mantissa)

instance (mantissa scale : Nat) : Decidable (IsCanonical mantissa scale) := by
  unfold IsCanonical
  exact inferInstance

/-- A number of the 64-bit binary interchange format. -/
inductive Binary64 where
  | nan
  | infinite (negative : Bool)
  | finite (negative : Bool) (mantissa scale : Nat) (canonical : IsCanonical mantissa scale)
  deriving DecidableEq

/-- The number of binary digits of `n`. -/
def bitLength (n : Nat) : Nat :=
  if n = 0 then 0 else n.log2 + 1

/-- The natural number nearest to `num / den`; of two equally near ones, the even one. -/
def roundHalfEven (num den : Nat) : Nat :=
  let quotient := num / den
  let rest := 2 * (num % den)
  if rest < den then quotient
  else if den < rest then quotient + 1
  else quotient + quotient % 2

namespace Binary64

/-- One is `2 ^ 1074` units. -/
def unitsPerOne : Nat := Nat.pow 2 1074

/-! ## Construction -/

/-- The finite number with this mantissa and scale, and infinity where the scale is too large. -/
def pack (negative : Bool) (mantissa scale : Nat) : Binary64 :=
  if h : IsCanonical mantissa scale then .finite negative mantissa scale h else .infinite negative

/-- The number nearest to `num / den`, ties to the even mantissa; `den` is positive. -/
def ofRatio (negative : Bool) (num den : Nat) : Binary64 :=
  let units := num * unitsPerOne
  let scale := bitLength (units / den) - 53
  let mantissa := roundHalfEven units (den * Nat.pow 2 scale)
  if mantissa = Nat.pow 2 53 then pack negative (Nat.pow 2 52) (scale + 1)
  else pack negative mantissa scale

def zero (negative : Bool) : Binary64 :=
  .finite negative 0 0 (by decide)

def ofNat (n : Nat) : Binary64 :=
  ofRatio false n 1

def ofInt (n : Int) : Binary64 :=
  ofRatio (decide (n < 0)) n.natAbs 1

/-! ## Views -/

/-- The exact value of a finite number, counted in units. -/
def units? : Binary64 → Option Int
  | .finite negative mantissa scale _ =>
    let magnitude : Int := (mantissa * Nat.pow 2 scale : Nat)
    some (if negative then -magnitude else magnitude)
  | _ => none

def isFinite (x : Binary64) : Bool :=
  x.units?.isSome

/-- The value of a number that is an integer, if it is one. -/
def toInt? (x : Binary64) : Option Int :=
  match x.units? with
  | some units => if units % unitsPerOne = 0 then some (units / unitsPerOne) else none
  | none => none

/-! ## Order -/

/-- Numeric order: nothing is below or above a NaN, and the two zeros are equal. -/
def lt : Binary64 → Binary64 → Bool
  | .nan, _ | _, .nan => false
  | .infinite a, .infinite b => a && !b
  | .infinite a, .finite .. => a
  | .finite .., .infinite b => !b
  | x@(.finite ..), y@(.finite ..) => decide (x.units?.getD 0 < y.units?.getD 0)

/-- Numeric equality: a NaN equals nothing, and the two zeros are equal. -/
def same : Binary64 → Binary64 → Bool
  | .nan, _ | _, .nan => false
  | .infinite a, .infinite b => a == b
  | .infinite _, .finite .. | .finite .., .infinite _ => false
  | x@(.finite ..), y@(.finite ..) => x.units? == y.units?

/-! ## Arithmetic -/

def neg : Binary64 → Binary64
  | .nan => .nan
  | .infinite negative => .infinite (!negative)
  | .finite negative mantissa scale h => .finite (!negative) mantissa scale h

def mul : Binary64 → Binary64 → Binary64
  | .nan, _ | _, .nan => .nan
  | .infinite a, .infinite b => .infinite (a != b)
  | .infinite a, .finite b m _ _ | .finite a m _ _, .infinite b =>
    if m = 0 then .nan else .infinite (a != b)
  | .finite a m s _, .finite b n t _ =>
    ofRatio (a != b) (m * n * Nat.pow 2 (s + t)) (unitsPerOne * unitsPerOne)

def div : Binary64 → Binary64 → Binary64
  | .nan, _ | _, .nan => .nan
  | .infinite _, .infinite _ => .nan
  | .infinite a, .finite b .. => .infinite (a != b)
  | .finite a .., .infinite b => zero (a != b)
  | .finite a m s _, .finite b n t _ =>
    if n = 0 then if m = 0 then .nan else .infinite (a != b)
    else ofRatio (a != b) (m * Nat.pow 2 s) (n * Nat.pow 2 t)

def add : Binary64 → Binary64 → Binary64
  | .nan, _ | _, .nan => .nan
  | .infinite a, .infinite b => if a = b then .infinite a else .nan
  | .infinite a, .finite .. => .infinite a
  | .finite .., .infinite b => .infinite b
  | x@(.finite a ..), y@(.finite b ..) =>
    let sum := x.units?.getD 0 + y.units?.getD 0
    if sum = 0 then zero (a && b) else ofRatio (decide (sum < 0)) sum.natAbs unitsPerOne

end Binary64

end BlockPilot
