import BlockPilot.Url.Percent

/-!
# Paths

A path is a list of segments. A segment `.` stands for nothing and a segment `..` takes the one
before it away, also where a dot is percent encoded. A drive letter is never taken away.
-/

namespace BlockPilot.Url.Path

/-- The signs between segments. -/
def isSlash (c : Char) : Bool :=
  c == '/' || c == '\\'

/-- A segment with its percent encoded dots written as dots. -/
def undotted : List Char → List Char
  | '%' :: '2' :: c :: rest =>
    if c = 'e' ∨ c = 'E' then '.' :: undotted rest else '%' :: undotted ('2' :: c :: rest)
  | c :: rest => c :: undotted rest
  | [] => []

def isDrive : List Char → Bool
  | [c, d] => c.isAlpha && (d == ':' || d == '|')
  | _ => false

/-- The segments without the last one, unless that is a drive letter. -/
def dropSegment (segments : List (List Char)) : List (List Char) :=
  match segments.getLast? with
  | some last => if isDrive last then segments else segments.dropLast
  | none => []

/-- The segments after one more; a last segment that stands for nothing leaves an empty one. -/
def append (segments : List (List Char)) (segment : List Char) (isLast : Bool) :
    List (List Char) :=
  let stay (segments : List (List Char)) := if isLast then segments ++ [[]] else segments
  match undotted segment with
  | ['.'] => stay segments
  | ['.', '.'] => stay (dropSegment segments)
  | _ => segments ++ [segment]

/-- The segments of a path from its encoded parts. -/
def normalize (segments : List (List Char)) : List (List Char) → List (List Char)
  | [] => segments
  | [last] => append segments last true
  | part :: rest => normalize (append segments part false) rest

/-- The segments of a path without its first slash. -/
def parse (s : List Char) : List (List Char) :=
  normalize [] <| (s.splitOnP isSlash).map (encode pathSet)

def text (segments : List (List Char)) : List Char :=
  segments.flatMap ('/' :: ·)

end BlockPilot.Url.Path
