import BlockPilot.Text.CodeRun
import BlockPilot.Text.Composed.Table

/-!
# Composed form

A text in composed form has its characters taken apart, its marks put in the order of their
combining classes, and then every mark joined with the character in front of it where the two make
up a single character. Hangul syllables are taken apart and put together by their numbers.
-/

namespace BlockPilot.Text

def combiningRuns : List CodeRun := CodeRun.ofText combiningText

/-- The combining class of a character; zero for one that begins anew. -/
def combiningClass (n : Nat) : Nat :=
  match findRun? combiningRuns n with
  | some run => hexNumber run.content
  | none => 0

/-! ## Hangul -/

def firstSyllable : Nat := 0xAC00
def firstLead : Nat := 0x1100
def firstVowel : Nat := 0x1161
/-- The number in front of the first tail. -/
def noTail : Nat := 0x11A7
def leads : Nat := 19
def vowels : Nat := 21
def tails : Nat := 28

/-- The parts of a syllable. -/
def syllableParts? (n : Nat) : Option (List Nat) :=
  let i := n - firstSyllable
  if n < firstSyllable ∨ leads * vowels * tails ≤ i then none
  else
    let tail := i % tails
    some ([firstLead + i / tails / vowels, firstVowel + i / tails % vowels] ++
      if tail = 0 then [] else [noTail + tail])

/-- The syllable that two parts make up. -/
def syllable? (a b : Nat) : Option Nat :=
  if firstLead ≤ a ∧ a < firstLead + leads ∧ firstVowel ≤ b ∧ b < firstVowel + vowels then
    some (firstSyllable + ((a - firstLead) * vowels + (b - firstVowel)) * tails)
  else if firstSyllable ≤ a ∧ a - firstSyllable < leads * vowels * tails ∧
      (a - firstSyllable) % tails = 0 ∧ noTail < b ∧ b < noTail + tails then
    some (a + (b - noTail))
  else none

/-! ## Taking apart and putting together -/

/-- The parts of a character, taken apart `depth` times at most. -/
def parts (depth n : Nat) : List Nat :=
  match depth with
  | 0 => [n]
  | depth + 1 =>
    match syllableParts? n with
    | some jamo => jamo
    | none => match compositions.lookup n with
      | some pair => pair.flatMap (parts depth)
      | none => [n]

/-- Puts a character in front of others, but behind marks of lower classes. -/
def insertMark (n : Nat) : List Nat → List Nat
  | [] => [n]
  | d :: rest =>
    if combiningClass d = 0 ∨ combiningClass n ≤ combiningClass d then n :: d :: rest
    else d :: insertMark n rest

/-- The single character that two make up. -/
def pair? (a b : Nat) : Option Nat :=
  (syllable? a b).or ((compositions.find? (·.2 == [a, b])).map (·.1))

/-- Puts `rest` together behind a character and the marks that stay by it, last one first. -/
def joinFrom (starter : Nat) (marks : List Nat) : List Nat → List Nat
  | [] => starter :: marks.reverse
  | n :: rest =>
    let isBlocked := match marks with
      | [] => false
      | d :: _ => decide (combiningClass n ≤ combiningClass d)
    match if isBlocked then none else pair? starter n with
    | some both => joinFrom both marks rest
    | none =>
      if combiningClass n = 0 then starter :: marks.reverse ++ joinFrom n [] rest
      else joinFrom starter (n :: marks) rest

/-- How often a character may have to be taken apart. -/
def partsDepth : Nat := 8

/-- The composed form of a text, by code points. -/
def composedCodes (s : List Nat) : List Nat :=
  match (s.flatMap (parts partsDepth)).foldr insertMark [] with
  | [] => []
  | n :: rest => joinFrom n [] rest

/-- The composed form of a text. -/
def composed (s : List Char) : List Char :=
  (composedCodes (s.map Char.toNat)).map Char.ofNat

end BlockPilot.Text
