import BlockPilot.Storage.Bytes
import BlockPilot.Storage.FileName

/-!
# File trees

Files and directories without links. The entries of a directory are in no order, and none of them has the
name of another; `Tree.enter` keeps them so. A path is a list of names, where a name that stays where it is
thereby demands a directory. A name that leads upwards, and a path that begins with a slash, lead out of
the tree: they are looked up like any other name. A path with a NUL in it is refused before anything is
looked up.
-/

namespace BlockPilot

inductive Tree where
  | file (bytes : List UInt8)
  | directory (entries : List (FileName × Tree))

/-- The names on the way to a file; a path that begins with a slash begins nowhere in the tree. -/
structure Path where
  names : List FileName
  deriving DecidableEq

namespace Path

/-- The first name of a path that begins with a slash. -/
def root : FileName := [FileName.slash]

/-- The path that bytes give: the names between the slashes. -/
def ofBytes : List UInt8 → Path
  | [] => ⟨[]⟩
  | b :: rest =>
    if b = FileName.slash then ⟨root :: List.splitOn FileName.slash rest⟩
    else ⟨List.splitOn FileName.slash (b :: rest)⟩

/-- The path that a text gives; a slash at its end demands a directory. -/
def ofText (text : String) : Path := ofBytes (bytesOfText text)

/-- The bytes that give a path. -/
def bytes (p : Path) : List UInt8 :=
  if p.names.head? = some root then FileName.slash :: List.intercalate [FileName.slash] p.names.tail
  else List.intercalate [FileName.slash] p.names

/-- Whether there is a NUL in a path. -/
def hasNul (p : Path) : Bool :=
  p.names.any (·.contains 0)

end Path

namespace Tree

def empty : Tree := .directory []

/-! ## Reading -/

/-- What a list of names leads to. -/
def find : List FileName → Tree → Except FileFault Tree
  | [], t => .ok t
  | _ :: _, .file _ => .error .notDirectory
  | name :: rest, .directory entries =>
    if name.stays then find rest (.directory entries)
    else if name.isTooLong then .error .nameTooLong
    else match entries.lookup name with
      | some t => find rest t
      | none => .error .notFound

/-- What a path leads to; an empty path leads nowhere. -/
def follow (path : Path) (t : Tree) : Except FileFault Tree :=
  if path.hasNul then .error .nulInPath
  else if path.names = [] then .error .notFound
  else find path.names t

def read (path : Path) (t : Tree) : Except FileFault (List UInt8) := do
  match ← follow path t with
  | .file bytes => .ok bytes
  | .directory _ => .error .isDirectory

/-- The names in a directory. -/
def list (path : Path) (t : Tree) : Except FileFault (List FileName) := do
  match ← follow path t with
  | .file _ => .error .notDirectory
  | .directory entries => .ok (entries.map (·.1))

mutual

/-- Every file that has a text for its path, with that text behind the path of the tree. -/
def contents (path : String) : Tree → List (String × List UInt8)
  | .file bytes => [(path, bytes)]
  | .directory entries => entryContents (if path = "" then "" else path ++ "/") entries

def entryContents (start : String) : List (FileName × Tree) → List (String × List UInt8)
  | [] => []
  | (name, t) :: rest =>
    (match textOfBytes name with
      | .ok text => contents (start ++ text) t
      | .error _ => []) ++ entryContents start rest

end

/-! ## Writing

Each change gives the tree that it leaves, also where it fails. -/

/-- The entries with a tree under a name, new or in place of another. -/
def enter (name : FileName) (t : Tree) (entries : List (FileName × Tree)) : List (FileName × Tree) :=
  (name, t) :: entries.filter (·.1 != name)

/-- Changes an entry of the directory at the end of a path. -/
def update (change : FileName → List (FileName × Tree) → Except FileFault (List (FileName × Tree))) :
    List FileName → Tree → Except FileFault Tree
  | [], _ => .error .notFound
  | _ :: _, .file _ => .error .notDirectory
  | [name], .directory entries =>
    if name.stays then .error .isDirectory
    else if name.isTooLong then .error .nameTooLong
    else .directory <$> change name entries
  | name :: rest, .directory entries =>
    if name.stays then update change rest (.directory entries)
    else if name.isTooLong then .error .nameTooLong
    else match entries.lookup name with
      | some t => (update change rest t).map fun t => .directory (enter name t entries)
      | none => .error .notFound

/-- The entries with a file of this content, new or in place of another. -/
def putFile (bytes : List UInt8) (name : FileName) (entries : List (FileName × Tree)) :
    Except FileFault (List (FileName × Tree)) :=
  match entries.lookup name with
  | some (.directory _) => .error .isDirectory
  | _ => .ok (enter name (.file bytes) entries)

/-- The entries without a file. -/
def dropFile (name : FileName) (entries : List (FileName × Tree)) :
    Except FileFault (List (FileName × Tree)) :=
  match entries.lookup name with
  | some (.directory _) => .error .isDirectory
  | some (.file _) => .ok (entries.filter (·.1 != name))
  | none => .error .notFound

/-- The outcome of a change, and the tree that it leaves. -/
def settle (t : Tree) : Except FileFault Tree → Except FileFault Unit × Tree
  | .ok u => (.ok (), u)
  | .error fault => (.error fault, t)

/-- Changes the entry that a path leads to. -/
def change (path : Path) (t : Tree)
    (f : FileName → List (FileName × Tree) → Except FileFault (List (FileName × Tree))) :
    Except FileFault Unit × Tree :=
  t.settle (if path.hasNul then .error .nulInPath else update f path.names t)

def write (path : Path) (bytes : List UInt8) (t : Tree) : Except FileFault Unit × Tree :=
  t.change path (putFile bytes)

def remove (path : Path) (t : Tree) : Except FileFault Unit × Tree :=
  t.change path dropFile

/-- Makes the directories on a path that are missing. -/
def makeNames : List FileName → Tree → Except FileFault Unit × Tree
  | [], .file bytes => (.error .alreadyExists, .file bytes)
  | [], .directory entries => (.ok (), .directory entries)
  | _ :: _, .file bytes => (.error .notDirectory, .file bytes)
  | name :: rest, .directory entries =>
    if name.stays then makeNames rest (.directory entries)
    else if name.isTooLong then (.error .nameTooLong, .directory entries)
    else
      let (outcome, t) := makeNames rest ((entries.lookup name).getD empty)
      (outcome, .directory (enter name t entries))

def makeAll (path : Path) (t : Tree) : Except FileFault Unit × Tree :=
  if path.hasNul then (.error .nulInPath, t) else makeNames path.names t

end Tree

end BlockPilot
