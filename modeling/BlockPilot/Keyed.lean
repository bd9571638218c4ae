/-!
# Keyed lists

Lists of values with keys, in the order of the keys and no key twice. `Keyed.insert` keeps a list
so, and this library builds keyed lists with nothing else.
-/

namespace BlockPilot.Keyed

variable {α : Type}

/-- The list with `key` set to `value`, in order when it was. -/
def insert (key : String) (value : α) : List (String × α) → List (String × α)
  | [] => [(key, value)]
  | (k, v) :: rest =>
    if key < k then (key, value) :: (k, v) :: rest
    else if key = k then (key, value) :: rest
    else (k, v) :: insert key value rest

def lookup (key : String) (entries : List (String × α)) : Option α :=
  (entries.find? (·.1 == key)).map (·.2)

def erase (key : String) (entries : List (String × α)) : List (String × α) :=
  entries.filter (·.1 != key)

end BlockPilot.Keyed
