import BlockPilot.Text.Lowercase.Table

/-!
# Lower case

The full lower case of a text: each character maps to its lower case, the dotted capital I to an
`i` and a combining dot, and the capital sigma to the final sigma when it ends a word.
-/

namespace BlockPilot.Text

def inRanges (ranges : List (Nat × Nat)) (n : Nat) : Bool :=
  ranges.any fun (first, last) => first ≤ n && n ≤ last

namespace CaseRun

def covers (run : CaseRun) (n : Nat) : Bool :=
  run.first ≤ n && n ≤ run.last && (n - run.first) % run.step == 0

end CaseRun

/-- The lower case of a character by itself. -/
def lowercaseChar (c : Char) : Char :=
  match lowercaseRuns.find? (·.covers c.toNat) with
  | some run => Char.ofNat (run.target + (c.toNat - run.first))
  | none => c

def isCased (c : Char) : Bool :=
  inRanges casedRanges c.toNat

def isCaseIgnorable (c : Char) : Bool :=
  inRanges caseIgnorableRanges c.toNat

/-- Whether the next character that is not case-ignorable is cased. -/
def meetsCased (s : List Char) : Bool :=
  match s.dropWhile isCaseIgnorable with
  | [] => false
  | c :: _ => isCased c

/-- The lower case of `rest`, where `before` holds the characters in front of it, last one
first. -/
def lowercaseFrom (before : List Char) : List Char → List Char
  | [] => []
  | c :: rest =>
    let mapped :=
      if c = 'Σ' then if meetsCased before && !meetsCased rest then ['ς'] else ['σ']
      else if c = 'İ' then ['i', Char.ofNat 0x307]
      else [lowercaseChar c]
    mapped ++ lowercaseFrom (c :: before) rest

/-- The text in lower case. -/
def lowercase (s : String) : String :=
  String.ofList (lowercaseFrom [] s.toList)

/-- The text with the capital letters of ASCII in lower case. -/
def lowercaseAscii (s : String) : String :=
  String.ofList (s.toList.map Char.toLower)

/-- The text with the small letters of ASCII in upper case. -/
def uppercaseAscii (s : String) : String :=
  String.ofList (s.toList.map Char.toUpper)

end BlockPilot.Text
