import BlockPilot.Config.Entry
import BlockPilot.Config.Fault

/-!
# Configurations from settings

The settings that have the names of sections and entries are taken over in the order of their
names; the first one that does not fit is the fault of all. A section may also be a list of its
entries' values in their order.
-/

namespace BlockPilot.Config

/-- The members of a setting that stands for something with named parts: for each of the parts its
name, what a message calls it, and the setting. -/
def members (expected : String) (names path : List String) :
    Layered → Except ConfigFault (List (String × String × Layered))
  | .dict _ entries => .ok (entries.map fun (key, v) => (key, key, v))
  | .leaf source (.list items) =>
    .ok (names.zipIdx.zip items |>.map fun ((name, i), v) =>
      (name, toString i, Layered.ofSetting source v))
  | .leaf source v => .error (.setting (.wrongType v.shown expected) path source)

/-- Reads a variant, which is a name or the first key of a dictionary. Such a key should have
nothing as its setting, and there is no such setting. -/
def readFormat (path : List String) : Layered → Except ConfigFault LogFormat
  | .leaf source (.text name) => variant path source name
  | .leaf source v => .error (.setting (.wrongType v.shown "enum OutputFormat") path source)
  | .dict source [] => .error (.setting (.wrongType "map" "enum") path source)
  | .dict _ ((name, v) :: _) => do
    let path := path ++ [name]
    let _ ← variant path v.source name
    .error (.setting (.wrongType v.shown "unit") path v.source)
where
  variant (path : List String) (source : Source) (name : String) :
      Except ConfigFault LogFormat :=
    match LogFormat.names.find? (·.1 == name) with
    | some (_, format) => .ok format
    | none => .error (.setting (.unknownVariant name (LogFormat.names.map (·.1))) path source)

def readText (expected : String) (path : List String) : Layered → Except ConfigFault String
  | .leaf _ (.text value) => .ok value
  | .leaf _ (.char value) => .ok (String.singleton value)
  | v => .error (.setting (.wrongType v.shown expected) path v.source)

def readNatural (expected : String) (path : List String) : Layered → Except ConfigFault Nat
  | .leaf _ (.natural n) => .ok n
  | .leaf source (.integer n) =>
    if 0 ≤ n then .ok n.toNat
    else .error (.setting (.wrongValue (Setting.integer n).shown expected) path source)
  | v => .error (.setting (.wrongType v.shown expected) path v.source)

/-- Takes an entry over. -/
def Kind.take (path : List String) (v : Layered) (c : Config) :
    Kind → Except ConfigFault Config
  | .text expected access => return access.set (← readText expected path v) c
  | .natural expected access => return access.set (← readNatural expected path v) c
  | .format access => return access.set (← readFormat path v) c

def Section.take (s : Section) (path : List String) (v : Layered) (c : Config) :
    Except ConfigFault Config := do
  let parts ← members ("struct " ++ s.title) (s.entries.map (·.name)) path v
  parts.foldlM (fun c (name, shown, v) =>
    match s.entries.find? (·.name == name) with
    | some e => e.kind.take (path ++ [shown]) v c
    | none => .ok c) c

/-- The configuration that settings give. -/
def ofSettings (v : Layered) : Except ConfigFault Config := do
  let parts ← members ("struct " ++ title) (Section.all.map (·.name)) [] v
  parts.foldlM (fun c (name, shown, v) =>
    match Section.all.find? (·.name == name) with
    | some s => s.take [shown] v c
    | none => .ok c) defaults

end BlockPilot.Config
