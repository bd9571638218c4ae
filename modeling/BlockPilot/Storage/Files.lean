import BlockPilot.Storage.Tree

/-!
# Access to files

What a program can do with files, in any monad. `Tree.files` does it on a tree that is the state;
`Files.within` refuses the paths that are too long for a system. A text is read from bytes only if they are
UTF-8.
-/

namespace BlockPilot

structure Files (m : Type → Type) where
  read : Path → m (Except FileFault (List UInt8))
  write : Path → List UInt8 → m (Except FileFault Unit)
  /-- Makes a directory and all the directories on the way to it. -/
  makeAll : Path → m (Except FileFault Unit)
  /-- The names in a directory. -/
  list : Path → m (Except FileFault (List FileName))

/-- Whether a path has more than `limit` bytes; a path with a NUL is refused for that first. -/
def Path.isTooLong (limit : Nat) (p : Path) : Bool :=
  !p.hasNul && decide (limit < p.bytes.length)

namespace Files

variable {m : Type → Type} [Monad m]

def readText (files : Files m) (path : Path) : m (Except FileFault String) := do
  return (← files.read path) >>= textOfBytes

def writeText (files : Files m) (path : Path) (text : String) : m (Except FileFault Unit) :=
  files.write path (bytesOfText text)

/-- The same access in another monad. -/
def lift {n : Type → Type} (f : {α : Type} → m α → n α) (files : Files m) : Files n where
  read path := f (files.read path)
  write path bytes := f (files.write path bytes)
  makeAll path := f (files.makeAll path)
  list path := f (files.list path)

/-- Does something unless the path has more than `limit` bytes. -/
def bounded {α : Type} (limit : Nat) (path : Path) (act : m (Except FileFault α)) : m (Except FileFault α) :=
  if path.isTooLong limit then pure (.error .nameTooLong) else act

/-- The access that a system gives whose paths have at most `limit` bytes. -/
def within (limit : Nat) (files : Files m) : Files m where
  read path := bounded limit path (files.read path)
  write path bytes := bounded limit path (files.write path bytes)
  makeAll path := bounded limit path (files.makeAll path)
  list path := bounded limit path (files.list path)

end Files

/-- Access to the files of a tree. -/
def Tree.files : Files (StateM Tree) where
  read path := fun t => (t.read path, t)
  write path bytes := fun t => t.write path bytes
  makeAll path := fun t => t.makeAll path
  list path := fun t => (t.list path, t)

end BlockPilot
