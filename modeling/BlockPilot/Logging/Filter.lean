import BlockPilot.Logging.Line

/-!
# Filters for log lines

A filter is a list of directives, each a level, a target, or a target with a level; a target stands
for all that begin with it. For a line the directive with the longest target counts, and of those
with the same target the last one. A line for which no directive counts is not shown.
-/

namespace BlockPilot

/-- What a directive lets pass: lines whose level is not beyond its own, or none at all. -/
structure Directive where
  target : String
  level : Option Level
  deriving DecidableEq

structure LogFilter where
  directives : List Directive
  deriving DecidableEq

namespace Directive

/-- The level that a word is: a name in any case, a digit, or `off` for none. -/
def level? (word : String) : Option (Option Level) :=
  let word := Text.lowercaseAscii word
  if word = "off" ∨ word = "0" then some none
  else (Level.all.find? fun l => l.name == word || toString l.number == word).map some

def isTargetChar (c : Char) : Bool :=
  c.isAlphanum || c == '_' || c == ':' || c == '-'

/-- The directive that a word is; a target without a level lets everything pass. -/
def ofWord? (word : String) : Option Directive :=
  match level? word with
  | some level => some ⟨"", level⟩
  | none =>
    let target := word.toList.takeWhile isTargetChar
    match word.toList.drop target.length with
    | [] | ['='] => some ⟨.ofList target, some .trace⟩
    | '=' :: level => (level? (.ofList level)).map fun level => ⟨.ofList target, level⟩
    | _ => none

/-- Whether a directive is about a target. -/
def covers (d : Directive) (target : String) : Bool :=
  d.target.toList.isPrefixOf target.toList

/-- The later of two directives for a line, unless the earlier one says more. -/
def closer (d e : Directive) : Directive :=
  if e.target.length < d.target.length then d else e

def allows (d : Directive) (level : Level) : Bool :=
  d.level.any fun l => decide (level.number ≤ l.number)

end Directive

namespace LogFilter

/-- The filter that lets every line pass up to a level. -/
def ofLevel (level : Level) : LogFilter := ⟨[⟨"", some level⟩]⟩

/-- The filter that a text gives, unless a directive is wrong. Without any directive only errors
pass. -/
def parse? (text : String) : Option LogFilter :=
  let words := (List.splitOn ',' text.toList).filter (· ≠ [])
  if words = [] then some (ofLevel .error)
  else (words.mapM fun word => Directive.ofWord? (.ofList word)).map LogFilter.mk

/-- Whether a filter lets lines of a target and a level pass. -/
def allows (filter : LogFilter) (target : String) (level : Level) : Bool :=
  match filter.directives.filter (·.covers target) with
  | [] => false
  | d :: rest => (rest.foldl Directive.closer d).allows level

end LogFilter

end BlockPilot
