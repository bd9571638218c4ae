import BlockPilot.Text.Composed
import BlockPilot.Url.Domain.ClassTable

/-!
# Labels of domain names

The rules for a label with characters beyond ASCII: it does not begin with a mark, joiners stand
only where scripts need them, and the directions of its characters fit together.
-/

namespace BlockPilot.Url.Domain

/-! ## Marks and joiners -/

def markRuns : List Text.CodeRun := Text.CodeRun.ofText markText

def isMark (c : Char) : Bool :=
  (Text.findRun? markRuns c.toNat).isSome

inductive Joining where
  | none
  | left
  | right
  | both
  | between
  deriving DecidableEq

def joiningRuns : List Text.CodeRun := Text.CodeRun.ofText joiningText

def joining (c : Char) : Joining :=
  match (Text.findRun? joiningRuns c.toNat).map (·.content) with
  | some ['D'] => .both
  | some ['L'] => .left
  | some ['R'] => .right
  | some ['T'] => .between
  | _ => .none

def nonJoiner : Char := '\u200C'

def joiner : Char := '\u200D'

/-- The combining class of the marks that suppress a vowel. -/
def suppressing : Nat := 9

/-- Whether the next character that is not in between joins to the given side. -/
def meets (side : Joining) (s : List Char) : Bool :=
  match s.dropWhile (joining · = .between) with
  | [] => false
  | c :: _ => joining c = side || joining c = .both

/-- Whether joiners stand where they may; `before` holds the characters in front of the rest, last
one first. -/
def joinersFit (before : List Char) : List Char → Bool
  | [] => true
  | c :: rest =>
    let suppressed := before.head?.any fun d => Text.combiningClass d.toNat == suppressing
    let fits :=
      if c = joiner then suppressed
      else if c = nonJoiner then suppressed || (meets .left before && meets .right rest)
      else true
    fits && joinersFit (c :: before) rest

/-! ## Directions -/

inductive Direction where
  | left
  | right
  | number
  | arabicNumber
  | mark
  | other
  deriving DecidableEq

def directionRuns : List Text.CodeRun := Text.CodeRun.ofText directionText

/-- The direction of a character, where `left` is the one of Latin letters. -/
def direction (c : Char) : Direction :=
  if c.toNat < 0x80 then
    if c.isAlpha then .left else if c.isDigit then .number else .other
  else
    match (Text.findRun? directionRuns c.toNat).map (·.content) with
    | some ['R'] => .right
    | some ['A'] => .arabicNumber
    | some ['E'] => .number
    | some ['N'] => .mark
    | some ['O'] => .other
    | _ => .left

/-- Whether a label makes its domain name one of both directions. -/
def isTwoWay (label : List Char) : Bool :=
  label.any fun c => direction c = .right || direction c = .arabicNumber

/-- Whether the directions in a label of a domain name of both directions fit together. -/
def directionsFit (label : List Char) : Bool :=
  let directions := label.map direction
  let last := (directions.reverse.dropWhile (· = .mark)).head?
  match directions.head? with
  | none => true
  | some .left =>
    directions.all (fun d => d ≠ .right && d ≠ .arabicNumber) &&
      (last = some .left || last = some .number)
  | some .right =>
    directions.all (· ≠ .left) &&
      !(directions.contains .number && directions.contains .arabicNumber) &&
      (last = some .right || last = some .number || last = some .arabicNumber)
  | some _ => false

/-- Whether a label keeps to its rules, directions apart. -/
def isLabel (label : List Char) : Bool :=
  !label.head?.any isMark && joinersFit [] label

end BlockPilot.Url.Domain
