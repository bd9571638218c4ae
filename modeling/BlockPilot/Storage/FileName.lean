/-!
# Names of files

A name is bytes, which need not be those of a text. It is taken apart at its last dot: its stem stands before
it and its extension behind it. A name whose only dot stands in front, like that of a hidden file, has no
extension, nor has the name of the directory above.
-/

namespace BlockPilot

/-- The name of a file, in bytes. -/
abbrev FileName := List UInt8

namespace FileName

def dot : UInt8 := 0x2E

/-- What stands between the names of a path, and in no name. -/
def slash : UInt8 := 0x2F

/-- The name of a directory in itself. -/
def here : FileName := [dot]

/-- The name of the directory above. -/
def above : FileName := [dot, dot]

/-- Whether a name on a path stays where it is; between two slashes there is an empty name. -/
def stays (name : FileName) : Bool :=
  name.isEmpty || name == here

/-- The longest name that a file can have, in bytes. -/
def maxLength : Nat := 255

def isTooLong (name : FileName) : Bool :=
  decide (maxLength < name.length)

/-! ## Stem and extension -/

/-- What stands before the last dot of a name, and what stands behind it. -/
def cut? (name : FileName) : Option (FileName × FileName) :=
  match name.reverse.dropWhile (· != dot) with
  | [] => none
  | _ :: front => some (front.reverse, (name.reverse.takeWhile (· != dot)).reverse)

/-- The stem and the extension of a name that has one. -/
def parts? (name : FileName) : Option (FileName × FileName) :=
  if name = above then none else (cut? name).filter fun parts => !parts.1.isEmpty

/-- The name without its extension. -/
def stem (name : FileName) : FileName := (parts? name).elim name (·.1)

def extension? (name : FileName) : Option FileName := (parts? name).map (·.2)

end FileName

end BlockPilot
