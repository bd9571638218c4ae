import BlockPilot.CommandLine.Perform
import BlockPilot.Logging.Rendering
import Std.Time

/-!
# The program

The host of the command line is the system: its files, its clock and its two outputs. Commands are
not sent over a network; a link only decides whether they can be sent.
-/

namespace BlockPilot.Main

/-- The fault that an error of the system is. -/
def fileFault : IO.Error → FileFault
  | .noFileOrDirectory .. => .notFound
  | .alreadyExists .. => .alreadyExists
  | .inappropriateType _ code _ => if code = 21 then .isDirectory else .notDirectory
  | .invalidArgument _ code reason =>
    if code = 36 || code = 0 - 36 then .nameTooLong else .other reason
  | e => .other (toString e)

def attempt {α : Type} (act : IO α) : IO (Except FileFault α) := do
  match ← act.toBaseIO with
  | .ok v => return .ok v
  | .error e => return .error (fileFault e)

/-- Does something with the text of a path; for the system a path ends at a NUL, so it is not asked. -/
def withPath {α : Type} (path : Path) (act : String → IO α) : IO (Except FileFault α) :=
  if path.hasNul then return .error .nulInPath
  else match textOfBytes path.bytes with
    | .ok text => attempt (act text)
    | .error fault => return .error fault

def files : Files IO where
  read path := withPath path fun text => do
    return (← IO.FS.readBinFile text).toList
  write path bytes := withPath path fun text => IO.FS.writeBinFile text bytes.toByteArray
  makeAll path :=
    if path.names = [] then return .ok () else withPath path fun text => IO.FS.createDirAll text
  list path := withPath path fun text => do
    let directory ← IO.FS.realPath text
    return (← directory.readDir).toList.map fun entry => bytesOfText entry.fileName

/-- A number in two digits. -/
def twoDigits (n : Int) : String :=
  if n < 10 then "0" ++ toString n else toString n

def clock : IO String := do
  let now ← Std.Time.PlainDateTime.now
  return String.intercalate ":" [twoDigits now.hour.val, twoDigits now.minute.val,
    twoDigits now.second.val]

def host : CommandLine.Host IO where
  files := files
  print line := IO.println line
  complain line := IO.eprintln line
  log format line := do IO.eprintln (line.render format (← clock))
  sleep nanoseconds := IO.sleep ((nanoseconds + 999999) / 1000000).toUInt32
  clock := clock

/-- The variable that a part of the environment's text gives. -/
def ofPart? (part : List UInt8) : Option (String × String) := do
  let text ← String.fromUTF8? part.toByteArray
  let chars := text.toList
  let name := chars.takeWhile (· != '=')
  some (.ofList name, .ofList (chars.drop (name.length + 1)))

/-- The variables of the environment, in the order of their names. -/
def environment : IO (List (String × String)) := do
  match ← attempt (IO.FS.readBinFile "/proc/self/environ") with
  | .error _ => return []
  | .ok bytes =>
    let parts := bytes.toList.splitOn 0
    return (parts.filterMap ofPart?).foldl (fun sorted (name, v) => Keyed.insert name v sorted) []

end BlockPilot.Main

def main (arguments : List String) : IO UInt32 := do
  let exit ← BlockPilot.CommandLine.perform BlockPilot.Main.host
    (← BlockPilot.Main.environment) arguments
  return exit.code.toUInt32
