import BlockPilot.Json.Scan
import BlockPilot.Text.Quoted
import BlockPilot.Url.Fault

/-!
# Version 6 addresses

Eight groups of up to four hexadecimal digits between colons. One run of zero groups may be left
out, and the last two groups may be four decimal bytes between dots. Written, the longest run of at
least two zero groups is left out, the first of several.
-/

namespace BlockPilot.Url.Ipv6

/-- The groups read so far, and how many of them stand in front of the run that is left out. -/
structure Groups where
  read : List Nat
  gap : Option Nat

namespace Groups

def push (g : Groups) (n : Nat) : Groups :=
  { g with read := g.read ++ [n] }

/-- The run that is left out stands here; it stands for one zero group at least. -/
def leaveOut (g : Groups) : Groups :=
  ⟨g.read ++ [0], some (g.read.length + 1)⟩

/-- The eight groups, if that many were read or left out. -/
def complete? (g : Groups) : Option (List Nat) :=
  match g.gap with
  | some n => some (g.read.take n ++ List.replicate (8 - g.read.length) 0 ++ g.read.drop n)
  | none => if g.read.length = 8 then some g.read else none

end Groups

/-- A byte in decimal without a leading zero, and the rest. -/
def readByte (s : List Char) : Option (Nat × List Char) :=
  let digits := s.takeWhile isDigit
  let n := ofDigits digits
  if digits = [] ∨ 255 < n ∨ (digits.length ≠ 1 ∧ digits.head? = some '0') then none
  else some (n, s.dropWhile isDigit)

/-- Four decimal bytes between dots as two groups. -/
def readBytes (s : List Char) : Option (Nat × Nat) := do
  let dot : List Char → Option (List Char)
    | '.' :: rest => some rest
    | _ => none
  let (a, s) ← readByte s
  let (b, s) ← readByte (← dot s)
  let (c, s) ← readByte (← dot s)
  let (d, s) ← readByte (← dot s)
  if s = [] then some (256 * a + b, 256 * c + d) else none

/-- The groups of the rest of an address. Each step takes a character, so that `fuel` need not
exceed the length of the text. -/
def readGroups (fuel : Nat) (g : Groups) (s : List Char) : Option Groups :=
  match fuel, s with
  | _, [] => some g
  | 0, _ => none
  | fuel + 1, c :: rest =>
    if g.read.length = 8 then none
    else if c = ':' then
      if g.gap.isSome then none else readGroups fuel g.leaveOut rest
    else
      let digits := (s.take 4).takeWhile (Json.hexValue? · |>.isSome)
      let group := digits.foldl (fun n c => 16 * n + (Json.hexValue? c).getD 0) 0
      match s.drop digits.length with
      | [] => some (g.push group)
      | ':' :: [] => none
      | ':' :: rest => readGroups fuel (g.push group) rest
      | '.' :: _ =>
        if digits = [] ∨ 6 < g.read.length then none
        else (readBytes s).map fun (a, b) => (g.push a).push b
      | _ => none

/-- The groups of an address without its brackets. -/
def parse (s : List Char) : Except UrlFault (List Nat) :=
  let groups := match s with
    | ':' :: ':' :: rest => readGroups s.length (Groups.leaveOut ⟨[], none⟩) rest
    | ':' :: _ | [] | [_] => none
    | s => readGroups s.length ⟨[], none⟩ s
  match groups.bind Groups.complete? with
  | some groups => .ok groups
  | none => .error .invalidIpv6

/-! ## Text -/

/-- How many groups at the front are zero. -/
def zeros (groups : List Nat) : Nat :=
  (groups.takeWhile (· == 0)).length

/-- Where the longest run of zero groups begins and how long it is, the first of several. -/
def longestRun : List Nat → Nat × Nat
  | [] => (0, 0)
  | n :: rest =>
    let (start, length) := longestRun rest
    if length ≤ zeros (n :: rest) then (0, zeros (n :: rest)) else (start + 1, length)

/-- Groups between colons. -/
def groupsText (groups : List Nat) : List Char :=
  List.intercalate [':'] (groups.map Text.hexText)

/-- The text of an address in its brackets. -/
def text (groups : List Nat) : List Char :=
  let (start, length) := longestRun groups
  let inner :=
    if length < 2 then groupsText groups
    else groupsText (groups.take start) ++ ':' :: ':' :: groupsText (groups.drop (start + length))
  '[' :: inner ++ [']']

end BlockPilot.Url.Ipv6
