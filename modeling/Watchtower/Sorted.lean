-- Tables sorted by name, each name once.

namespace Watchtower.Sorted

/-- Enters a value under a name. A value that was there is replaced. -/
def insert (name : String) (value : α) : List (String × α) → List (String × α)
  | [] => [(name, value)]
  | (key, old) :: rest =>
    if name < key then (name, value) :: (key, old) :: rest
    else if name = key then (name, value) :: rest
    else (key, old) :: insert name value rest

/-- The table of some entries. Of two entries with one name the later counts. -/
def ofList (entries : List (String × α)) : List (String × α) :=
  entries.foldl (fun table (name, value) => insert name value table) []

end Watchtower.Sorted
