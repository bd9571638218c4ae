import BlockPilot.Config.Environment
import BlockPilot.Config.Extract
import BlockPilot.Config.Toml.Document
import BlockPilot.Failure
import BlockPilot.Storage.Files

/-!
# Loading a configuration

A configuration is put together from the defaults, a file and the environment, and then validated.
A file that is not there changes nothing. It is looked for where its path leads only: that a relative path is
tried again from each of the directories above the one in which the program works is left out, since a tree
of files has nothing above it.
-/

namespace BlockPilot.Config

/-- The file that is read where no other is given. -/
def defaultFile : String := "botblocks.toml"

/-- How a file is called in messages: by its path without the names that stay where they are. -/
def shownFile (file : String) : String :=
  let names := ((List.splitOn '/' file.toList).map String.ofList).filter fun name => name ≠ "" ∧ name ≠ "."
  String.intercalate "/" (if file.toList.head? = some '/' then "" :: names else names)

/-- The layer that the content of a file gives. -/
def fileLayer (name : String) :
    Except FileFault String → Except ConfigFault Layered
  | .ok text => match Toml.parse? text with
    | some entries => .ok (.ofSetting (.file name) (.dict entries))
    | none => .error (.noToml name)
  | .error .notText => .error (.noText name)
  | .error _ => .ok (.dict (.file name) [])

/-- A configuration, or the first thing that is wrong with it. -/
def validated (c : Config) : Except Failure Config :=
  match c.problem? with
  | some problem => .error (.configuration problem)
  | none => .ok c

/-- The configuration that a file and the environment give. -/
def ofLayers (file : Except ConfigFault Layered) (environment : Layered) :
    Except Failure Config := do
  match file >>= fun layer => ofSettings (layer.merge environment) with
  | .error fault => .error (.setting fault)
  | .ok c => validated c

variable {m : Type → Type} [Monad m]

/-- Loads the configuration with a file; `env` holds the variables of the environment. -/
def load (files : Files m) (env : List (String × String)) (file : String) :
    m (Except Failure Config) := do
  let layer := fileLayer (shownFile file) (← files.readText (.ofText file))
  return ofLayers layer (Environment.layer env)

end BlockPilot.Config
