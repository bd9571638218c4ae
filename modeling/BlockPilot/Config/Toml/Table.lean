import BlockPilot.Config.Setting

/-!
# Tables of TOML

A table grows line by line. A header begins a table of its own; the tables on the way to it come
into being without a header of their own and may get one later. A dotted key makes tables that no
header may begin. Nothing is given twice, and a value that is written in one place is closed.
-/

namespace BlockPilot.Toml

/-- How a table came into being. -/
inductive Origin where
  /-- On the way to a table with a header. -/
  | implied
  /-- On the way to a dotted key. -/
  | dotted
  | header
  deriving DecidableEq

/-- What a table holds under a name. -/
inductive Item where
  | value (v : Setting)
  | table (origin : Origin) (entries : List (String × Item))
  /-- Tables with the same header, last one first. -/
  | tables (all : List (List (String × Item)))

abbrev Entries := List (String × Item)

/-- Goes to the table at the end of a path of headers, making tables on the way, and changes it. -/
def atTable (change : Entries → Option Entries) : List String → Entries → Option Entries
  | [], entries => change entries
  | name :: path, entries => do
    let item ← match Keyed.lookup name entries with
      | none => (atTable change path []).map (Item.table .implied)
      | some (.table origin inner) => (atTable change path inner).map (Item.table origin)
      | some (.tables (last :: others)) =>
        (atTable change path last).map fun last => .tables (last :: others)
      | some (.tables []) | some (.value _) => none
    some (Keyed.insert name item entries)

/-- Begins a table under a header. -/
def beginTable (name : String) (entries : Entries) : Option Entries :=
  match Keyed.lookup name entries with
  | none => some (Keyed.insert name (.table .header []) entries)
  | some (.table .implied inner) => some (Keyed.insert name (.table .header inner) entries)
  | _ => none

/-- Begins one more table under a header that is given several times. -/
def appendTable (name : String) (entries : Entries) : Option Entries :=
  match Keyed.lookup name entries with
  | none => some (Keyed.insert name (.tables [[]]) entries)
  | some (.tables all) => some (Keyed.insert name (.tables ([] :: all)) entries)
  | _ => none

/-- Puts a value under a name that is free. -/
def putNew (name : String) (v : Setting) (entries : Entries) : Option Entries :=
  match Keyed.lookup name entries with
  | none => some (Keyed.insert name (.value v) entries)
  | some _ => none

/-- Puts a value under a dotted key. The table that gets it must be one that dotted keys make. -/
def putDotted (v : Setting) : List String → Entries → Option Entries
  | [], _ => none
  | [name], entries => putNew name v entries
  | name :: path, entries => do
    let item ← match Keyed.lookup name entries with
      | none => (putDotted v path []).map (Item.table .dotted)
      | some (.table origin inner) =>
        if origin = .header ∨ (origin = .implied ∧ path.length = 1) then none
        else (putDotted v path inner).map (Item.table origin)
      | some (.tables (last :: others)) =>
        if path.length = 1 then none
        else (putDotted v path last).map fun last => .tables (last :: others)
      | some (.tables []) | some (.value _) => none
    some (Keyed.insert name item entries)

mutual

/-- The setting that an item is. -/
def Item.toSetting : Item → Setting
  | .value v => v
  | .table _ entries => .dict (toSettings entries)
  | .tables all => .list (tablesToSettings all).reverse

def toSettings : List (String × Item) → List (String × Setting)
  | [] => []
  | (name, item) :: rest => (name, item.toSetting) :: toSettings rest

def tablesToSettings : List (List (String × Item)) → List Setting
  | [] => []
  | entries :: rest => .dict (toSettings entries) :: tablesToSettings rest

end

end BlockPilot.Toml
