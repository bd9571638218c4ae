import BlockPilot.Failure
import BlockPilot.Program.Json
import BlockPilot.Storage.FileName
import BlockPilot.Storage.Files

/-!
# Program slots

Programs are kept by name in the files of a directory, one file a slot. A name holds letters and
digits of ASCII, hyphens and underscores only, so that it never leads out of the directory.
-/

namespace BlockPilot

/-- The directory in which the slots are. -/
structure Slots where
  directory : String
  deriving DecidableEq

namespace Slots

/-- The slot for programs that are given no name. -/
def defaultName : String := "default"

def isValid (name : String) : Bool :=
  name ≠ "" && name.toList.all fun c => c.isAlphanum || c == '-' || c == '_'

/-- The extension of the files of slots. -/
def extension : String := "json"

/-- What a file of a slot is called behind the name of the slot. -/
def suffix : String := ".json"

/-- The path of a file in a directory. -/
def join (directory file : String) : String :=
  if directory = "" ∨ directory.toList.getLast? = some '/' then directory ++ file
  else directory ++ "/" ++ file

/-- Where the program of a slot is kept. -/
def path (s : Slots) (name : String) : String :=
  join s.directory (name ++ suffix)

/-- The slot that a file belongs to: the stem of its name, if a slot can have this name. The extension and the
stem count only where they are texts. -/
def ofFile? (file : FileName) : Option String :=
  match file.extension?.map textOfBytes with
  | some (.ok ending) =>
    if ending = extension then
      match textOfBytes file.stem with
      | .ok stem => if isValid stem then some stem else none
      | .error _ => none
    else none
  | _ => none

/-- The slots that files belong to, in the order of their names. -/
def ofFiles (files : List FileName) : List String :=
  (files.filterMap ofFile?).mergeSort fun a b => decide (a ≤ b)

variable {m : Type → Type} [Monad m]

/-- Keeps a program in a slot, and says where. -/
def save (files : Files m) (s : Slots) (name : String) (p : Program) :
    m (Except Failure String) := do
  if isValid name then
    match ← files.makeAll (.ofText s.directory) with
    | .error fault => return .error (.io fault)
    | .ok () =>
      match ← files.writeText (.ofText (s.path name)) p.pretty with
      | .error fault => return .error (.io fault)
      | .ok () => return .ok (s.path name)
  else return .error (.invalidSlot name)

/-- The program that the file of a slot holds. -/
def ofContent (name : String) : Except FileFault String → Except Failure Program
  | .error .notFound => .error (.slotNotFound name)
  | .error fault => .error (.io fault)
  | .ok text => match Program.parse text with
    | .ok p => .ok p
    | .error fault => .error (.json fault)

/-- The program in a slot. -/
def load (files : Files m) (s : Slots) (name : String) : m (Except Failure Program) := do
  if isValid name then
    return ofContent name (← files.readText (.ofText (s.path name)))
  else return .error (.invalidSlot name)

/-- The slots that hold something; a directory that is not there holds nothing. -/
def list (files : Files m) (s : Slots) : m (Except Failure (List String)) := do
  match ← files.list (.ofText s.directory) with
  | .error .notFound => return .ok []
  | .error fault => return .error (.io fault)
  | .ok names => return .ok (ofFiles names)

end Slots

end BlockPilot
