import BlockPilot.Url.Domain.Label
import BlockPilot.Url.Domain.MappingTable
import BlockPilot.Url.Percent
import BlockPilot.Url.Punycode

/-!
# Domain names

A domain name is compared in lower case and holds none of the characters that have a meaning in
addresses. Characters beyond ASCII are mapped to those that names are compared by and then composed;
a label that still has some is written in Punycode behind `xn--`. A label that is given in this
form must be one that its writing gives.
-/

namespace BlockPilot.Url.Domain

/-- The ASCII characters that no domain name holds. -/
def isForbidden (c : Char) : Bool :=
  c.toNat ≤ 0x20 || c.toNat == 0x7F ||
    ['%', '"', '#', '/', ':', '<', '>', '?', '@', '[', '\\', ']', '^', '`', '\x7b', '|',
      '\x7d'].contains c

def isAscii (c : Char) : Bool :=
  decide (c.toNat < 0x80)

/-! ## Mapping -/

def mappingRuns : List Text.CodeRun := Text.CodeRun.ofText mappingText

/-- What a character becomes in a domain name, unless it is not allowed. -/
def mapChar (c : Char) : Option (List Char) :=
  if isAscii c then some [c.toLower]
  else match Text.findRun? mappingRuns c.toNat with
    | none => some [c]
    | some run =>
      if run.content = ['!'] then none
      else match run.numbers with
        | [target] => some [Char.ofNat (target + (c.toNat - run.first))]
        | targets => some (targets.map Char.ofNat)

/-- The text by which a domain name is compared. -/
def mapped? (s : List Char) : Option (List Char) :=
  (s.mapM mapChar).map fun parts => Text.composed parts.flatten

/-! ## Labels -/

/-- How a label in Punycode begins. -/
def mark : List Char := ['x', 'n', '-', '-']

/-- The characters of a label, which may be given in Punycode. -/
def readLabel (label : List Char) : Option (List Char) :=
  if mark.isPrefixOf label then do
    let code := label.drop mark.length
    let s ← Punycode.read? code
    if !s.all isAscii ∧ mapped? s = some s ∧ Punycode.write s = code then some s else none
  else some label

/-- A label in ASCII. -/
def writeLabel (label : List Char) : List Char :=
  if label.all isAscii then label else mark ++ Punycode.write label

/-- Whether a name can be taken as it is, but for its case. -/
def isPlain (name : List Char) : Bool :=
  name.all isAscii &&
    !(List.splitOn '.' name).any fun label => mark.isPrefixOf (label.map Char.toLower)

/-- The domain name in its ASCII form, if it has one. -/
def toAscii? (name : List Char) : Option (List Char) := do
  let result ← if isPlain name then some (name.map Char.toLower)
    else do
      let text ← mapped? name
      let labels ← (List.splitOn '.' text).mapM readLabel
      if labels.all isLabel ∧ (!labels.any isTwoWay ∨ labels.all directionsFit) then
        some (List.intercalate ['.'] (labels.map writeLabel))
      else none
  if result.any isForbidden then none else some result

end BlockPilot.Url.Domain
