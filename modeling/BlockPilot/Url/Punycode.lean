/-!
# Punycode

A label with characters beyond ASCII is written in ASCII: first its ASCII characters and a hyphen,
then, in base 36, the steps of a walk that puts in the others. The walk goes through all places of
the label for one character after the other; the number of steps to the next insertion is written
with digits of mixed weights, which follow the size of the steps so far.
-/

namespace BlockPilot.Url.Punycode

/-- The greatest code point and one more. -/
def codePoints : Nat := 0x110000

def digitChar (n : Nat) : Char :=
  if n < 26 then Char.ofNat ('a'.toNat + n) else Char.ofNat ('0'.toNat + (n - 26))

/-- The value of a digit; letters are small. -/
def digit? (c : Char) : Option Nat :=
  if 'a' ≤ c ∧ c ≤ 'z' then some (c.toNat - 'a'.toNat)
  else if '0' ≤ c ∧ c ≤ '9' then some (c.toNat - '0'.toNat + 26)
  else none

/-- From which value on a digit is not the last, where `place` counts in steps of 36. -/
def threshold (bias place : Nat) : Nat :=
  max 1 (min 26 (place - bias))

/-- The bias after a number of steps, where the label has so many characters then. -/
def adapt (steps length : Nat) (isFirst : Bool) : Nat :=
  let steps := if isFirst then steps / 700 else steps / 2
  scale (steps + steps / length) 0
where
  scale (steps bias : Nat) : Nat :=
    if 455 < steps then scale (steps / 35) (bias + 36) else bias + 36 * steps / (steps + 38)
  termination_by steps
  decreasing_by omega

/-- Where the walk stands. -/
structure Walk where
  /-- The next character to put in. -/
  code : Nat
  bias : Nat
  /-- Whether nothing has been put in yet. -/
  isFirst : Bool

/-- The beginning of a walk. -/
def Walk.start : Walk := ⟨0x80, 72, true⟩

/-! ## Writing -/

/-- The digits of a number of steps. -/
def writeSteps (bias place steps : Nat) : List Char :=
  let t := threshold bias place
  if steps < t then [digitChar steps]
  else
    digitChar (t + (steps - t) % (36 - t)) :: writeSteps bias (place + 36) ((steps - t) / (36 - t))
termination_by steps
decreasing_by
  have : 1 ≤ threshold bias place := Nat.le_max_left ..
  exact Nat.lt_of_le_of_lt (Nat.div_le_self ..) (by omega)

/-- Writes the insertions of one character; `steps` counts the places passed since the last
insertion, and `length` the characters of the label so far. -/
def writeCode (code : Nat) : List Nat → Nat → Nat → Walk → List Char × Nat × Nat × Walk
  | [], steps, length, walk => ([], steps, length, walk)
  | c :: rest, steps, length, walk =>
    if c < code then writeCode code rest (steps + 1) length walk
    else if c = code then
      let text := writeSteps walk.bias 36 steps
      let walk := { walk with bias := adapt steps (length + 1) walk.isFirst, isFirst := false }
      let (more, result) := writeCode code rest 0 (length + 1) walk
      (text ++ more, result)
    else writeCode code rest steps length walk

/-- Writes the insertions of all characters, which are given in order and without repetition. -/
def writeAll (label : List Nat) : List Nat → Nat → Nat → Walk → List Char
  | [], _, _, _ => []
  | code :: rest, steps, length, walk =>
    let steps := steps + (code - walk.code) * (length + 1)
    let (text, steps, length, walk) := writeCode code label steps length walk
    text ++ writeAll label rest (steps + 1) length { walk with code := code + 1 }

/-- The characters beyond ASCII, in order and without repetition. -/
def others (label : List Nat) : List Nat :=
  ((label.filter (0x80 ≤ ·)).mergeSort (· ≤ ·)).eraseDups

/-- A label in ASCII. -/
def write (label : List Char) : List Char :=
  let basic := label.filter (·.toNat < 0x80)
  let codes := label.map Char.toNat
  basic ++ (if basic = [] then [] else ['-']) ++
    writeAll codes (others codes) 0 basic.length .start

/-! ## Reading -/

/-- A number of steps and the text behind it; `weight` is the weight of the next digit. -/
def readSteps (bias : Nat) (place weight : Nat) : List Char → Option (Nat × List Char)
  | [] => none
  | c :: rest => do
    let n ← digit? c
    let t := threshold bias place
    if n < t then some (n * weight, rest)
    else
      let (more, rest) ← readSteps bias (place + 36) (weight * (36 - t)) rest
      some (n * weight + more, rest)

/-- Puts in the other characters; `place` is the place behind the last insertion. Every step takes
a character of the text, so that `fuel` need not exceed its length. -/
def readAll (fuel : Nat) (label : List Nat) (place : Nat) (walk : Walk) (s : List Char) :
    Option (List Nat) :=
  match fuel, s with
  | _, [] => some label
  | 0, _ => none
  | fuel + 1, s => do
    let (steps, rest) ← readSteps walk.bias 36 1 s
    let length := label.length + 1
    let code := walk.code + (place + steps) / length
    let place := (place + steps) % length
    if codePoints ≤ code then none
    else
      readAll fuel (label.take place ++ code :: label.drop place) (place + 1)
        ⟨code, adapt steps length walk.isFirst, false⟩ rest

/-- The label that a text in ASCII stands for. -/
def read? (s : List Char) : Option (List Char) :=
  let tail := (s.reverse.takeWhile (· != '-')).reverse
  let basic := s.take (s.length - tail.length - 1)
  if basic = [] ∧ tail ≠ s then none
  else do
    let codes ← readAll tail.length (basic.map Char.toNat) 0 .start tail
    if codes.all (·.isValidChar) then some (codes.map Char.ofNat) else none

end BlockPilot.Url.Punycode
