import BlockPilot.Decimal.Shortest

/-!
# Decimal layouts

How a binary number is written in digits: which numbers are positional and which get an exponent,
whether a whole number keeps a point, and how the numbers without digits are called. The two
layouts of this library are `Layout.plain`, for messages, and `Layout.json`, for JSON texts.
-/

namespace BlockPilot

/-- The text of a natural number in decimal digits. -/
def decimalText (n : Nat) : List Char :=
  Nat.toDigits 10 n

/-- A way to write binary numbers in decimal. -/
structure Layout where
  /-- The least position of the point that is still written without an exponent, if there is one. -/
  lowest : Option Int
  /-- The greatest position of the point that is still written without an exponent. -/
  highest : Option Int
  /-- Whether a whole number is written with a point and a zero. -/
  pointed : Bool
  tie : Tie
  deriving Repr

namespace Layout

/-- Messages show the shortest digits, never an exponent, and no point in whole numbers. -/
def plain : Layout := ⟨none, none, false, .away⟩

/-- JSON texts show the shortest digits, with an exponent from `1e16` on and below `1e-5`. -/
def json : Layout := ⟨some (-4), some 16, true, .toEven⟩

def isPositional (l : Layout) (position : Int) : Bool :=
  l.lowest.all (decide <| · ≤ position) && l.highest.all (decide <| position ≤ ·)

/-- The digits with the point where it belongs, filled up with zeros. -/
def positional (l : Layout) (d : Decimal) : List Char :=
  let digits := decimalText d.digits
  let position := d.position
  if 0 ≤ d.exponent then
    digits ++ List.replicate d.exponent.toNat '0' ++ (if l.pointed then ['.', '0'] else [])
  else if 0 < position then
    digits.take position.toNat ++ '.' :: digits.drop position.toNat
  else
    '0' :: '.' :: List.replicate (-position).toNat '0' ++ digits

/-- One digit before the point, and the exponent with its sign. -/
def scientific (d : Decimal) : List Char :=
  let power := d.position - 1
  let mantissa := match decimalText d.digits with
    | [] => []
    | [digit] => [digit]
    | digit :: rest => digit :: '.' :: rest
  mantissa ++ 'e' :: (if power < 0 then '-' else '+') :: decimalText power.natAbs

/-- The text of the finite number with this sign, mantissa and scale. -/
def finiteText (l : Layout) (negative : Bool) (mantissa scale : Nat) : List Char :=
  let sign := if negative then ['-'] else []
  if mantissa = 0 then sign ++ l.positional ⟨0, 0⟩
  else
    let d := Decimal.shortest l.tie mantissa scale
    sign ++ (if l.isPositional d.position then l.positional d else scientific d)

end Layout

namespace Binary64

/-- The number as messages show it. -/
def toPlain : Binary64 → String
  | .nan => "NaN"
  | .infinite negative => if negative then "-inf" else "inf"
  | .finite negative mantissa scale _ =>
    String.ofList (Layout.plain.finiteText negative mantissa scale)

/-- The number as JSON texts show it; JSON has no text for the numbers without digits. -/
def toJsonText : Binary64 → String
  | .finite negative mantissa scale _ =>
    String.ofList (Layout.json.finiteText negative mantissa scale)
  | _ => "null"

end Binary64

end BlockPilot
