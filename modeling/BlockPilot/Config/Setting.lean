import BlockPilot.Binary64
import BlockPilot.Keyed

/-!
# Settings

A setting is a value of any kind, as a file or the environment gives it. Settings come in layers,
later ones over earlier ones; `Layered.merge` puts them together entry by entry, so that a layer
replaces no more than the entries that it has. Every value remembers the layer that it comes from.
-/

namespace BlockPilot

inductive Setting where
  | text (value : String)
  /-- A single character, which is a text except where a name is chosen. -/
  | char (value : Char)
  | bool (value : Bool)
  /-- A whole number without a sign. -/
  | natural (value : Nat)
  | integer (value : Int)
  | decimal (value : Binary64)
  | list (items : List Setting)
  | dict (entries : List (String × Setting))

/-- A layer of settings. -/
inductive Source where
  | defaults
  | file (name : String)
  | environment
  deriving DecidableEq

/-- A setting, put together from layers. -/
inductive Layered where
  | leaf (source : Source) (value : Setting)
  | dict (source : Source) (entries : List (String × Layered))

namespace Layered

def source : Layered → Source
  | .leaf source _ => source
  | .dict source _ => source

mutual

/-- A setting of one layer; lists are not divided. -/
def ofSetting (source : Source) : Setting → Layered
  | .dict entries => .dict source (ofEntries source entries)
  | v => .leaf source v

def ofEntries (source : Source) : List (String × Setting) → List (String × Layered)
  | [] => []
  | (key, v) :: rest => (key, ofSetting source v) :: ofEntries source rest

end

mutual

/-- A setting with a later one over it. -/
def merge (below : Layered) : Layered → Layered
  | .leaf source v => .leaf source v
  | .dict source entries => match below with
    | .dict _ old => .dict source (mergeEntries old entries)
    | .leaf .. => .dict source entries

/-- Entries with later ones over them. -/
def mergeEntries (old : List (String × Layered)) :
    List (String × Layered) → List (String × Layered)
  | [] => old
  | (key, v) :: rest =>
    let v := match Keyed.lookup key old with
      | some below => merge below v
      | none => v
    mergeEntries (Keyed.insert key v old) rest

end

end Layered

end BlockPilot
