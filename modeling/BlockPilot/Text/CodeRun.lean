/-!
# Tables of characters in text

A table is a text of words with white space between them. A word is a code point, or the first and
the last of several, and behind a colon what holds of them. A hyphen stands between the two where
all characters from the one to the other are meant, and a star where every other one is. Numbers are
in base 16.
-/

namespace BlockPilot.Text

/-- Equally spaced characters of which the same holds. -/
structure CodeRun where
  first : Nat
  last : Nat
  step : Nat
  /-- What holds of the characters. -/
  content : List Char

/-- The number that capital digits in base 16 stand for. -/
def hexNumber (digits : List Char) : Nat :=
  digits.foldl (fun n c => 16 * n + (if c ≤ '9' then c.toNat - 48 else c.toNat - 55)) 0

namespace CodeRun

def covers (run : CodeRun) (n : Nat) : Bool :=
  run.first ≤ n && n ≤ run.last && (n - run.first) % run.step == 0

def ofWord (word : List Char) : CodeRun :=
  let codes := word.takeWhile (· != ':')
  let content := word.drop (codes.length + 1)
  let first := codes.takeWhile fun c => c != '-' && c != '*'
  match codes.drop first.length with
  | [] => ⟨hexNumber first, hexNumber first, 1, content⟩
  | mark :: last => ⟨hexNumber first, hexNumber last, if mark = '*' then 2 else 1, content⟩

/-- The runs of a table. -/
def ofText (text : String) : List CodeRun :=
  ((text.toList.splitOnP fun c => c == ' ' || c == '\n').filter (· ≠ [])).map ofWord

/-- The content as numbers with commas between them. -/
def numbers (run : CodeRun) : List Nat :=
  if run.content = [] then [] else (List.splitOn ',' run.content).map hexNumber

end CodeRun

/-- The run of a table to which a code point belongs. -/
def findRun? (runs : List CodeRun) (n : Nat) : Option CodeRun :=
  runs.find? (·.covers n)

end BlockPilot.Text
