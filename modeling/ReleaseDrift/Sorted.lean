/-!
Maps and sets of strings as lists in ascending order. Strings compare by code point. A map
written by `SortedMap.insert` alone holds every key once.
-/

namespace ReleaseDrift

namespace SortedMap

variable {α : Type}

def insert (key : String) (value : α) : List (String × α) → List (String × α)
  | [] => [(key, value)]
  | (other, kept) :: rest =>
      if key < other then (key, value) :: (other, kept) :: rest
      else if key = other then (key, value) :: rest
      else (other, kept) :: insert key value rest

/-- Of the values of one key the last is kept. -/
def ofList (entries : List (String × α)) : List (String × α) :=
  entries.foldl (fun map (key, value) => insert key value map) []

def get? (map : List (String × α)) (key : String) : Option α := map.lookup key

def contains (map : List (String × α)) (key : String) : Bool := (get? map key).isSome

def erase (map : List (String × α)) (key : String) : List (String × α) :=
  map.filter fun entry => entry.1 != key

end SortedMap

namespace SortedSet

def insert (name : String) : List String → List String
  | [] => [name]
  | other :: rest =>
      if name < other then name :: other :: rest
      else if name = other then other :: rest
      else other :: insert name rest

def insertAll (names : List String) (set : List String) : List String :=
  names.foldl (fun set name => insert name set) set

def ofList (names : List String) : List String := insertAll names []

end SortedSet

end ReleaseDrift
