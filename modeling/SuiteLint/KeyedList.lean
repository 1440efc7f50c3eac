/-!
# Keyed lists

Lists of keys with their values in which a key stands at most once. A later value of a key replaces
the earlier one and keeps its place.
-/

namespace SuiteLint.KeyedList

variable {β : Type}

/-- Sets the value of a key: in place if the key is there, at the end otherwise. -/
def set (key : String) (value : β) : List (String × β) → List (String × β)
  | [] => [(key, value)]
  | entry :: rest =>
    if entry.1 == key then (key, value) :: rest else entry :: set key value rest

/-- The value of a key. -/
def get? (key : String) : List (String × β) → Option β
  | [] => none
  | entry :: rest => if entry.1 == key then some entry.2 else get? key rest

/-- The list without a key. -/
def erase (key : String) (entries : List (String × β)) : List (String × β) :=
  entries.filter fun entry => entry.1 != key

/-- Sets keys one after the other, starting from the empty list. -/
def ofList (entries : List (String × β)) : List (String × β) :=
  entries.foldl (fun acc entry => set entry.1 entry.2 acc) []

end SuiteLint.KeyedList
