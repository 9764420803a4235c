import ReleaseDrift.Toml.Basic

/-!
Tables under construction. A table is begun by its header, by the header of a table inside it,
or by a dotted key, and what may be added later depends on that. A name is defined once, and names
keep the order in which they are defined.
-/

namespace ReleaseDrift.Toml

inductive Origin where
  | defined
  | implied
  | dotted
  deriving Repr, DecidableEq

inductive Item where
  | value (value : Value)
  | table (origin : Origin) (members : List (String × Item))
  | tables (finished : List Value) (members : List (String × Item))
  deriving Repr

structure Key where
  path : List String
  name : String
  deriving Repr, DecidableEq

def Key.names (key : Key) : List String := key.path ++ [key.name]

def Item.toValue : Item → Value
  | value v => v
  | table _ members => .table (membersValue members)
  | tables finished members => .arr (finished ++ [.table (membersValue members)])
where
  membersValue : List (String × Item) → List (String × Value)
    | [] => []
    | (name, item) :: rest => (name, item.toValue) :: membersValue rest

abbrev Members := List (String × Item)

namespace Members

def toValues (members : Members) : List (String × Value) := Item.toValue.membersValue members

def set (name : String) (item : Item) : Members → Members
  | [] => [(name, item)]
  | (other, kept) :: rest =>
      if other = name then (name, item) :: rest else (other, kept) :: set name item rest

def erase (members : Members) (name : String) : Members :=
  members.filter fun entry => entry.1 != name

def add? (members : Members) (name : String) (item : Item) : Option Members :=
  if (members.lookup name).isSome then none else some (set name item members)

/-- Puts a value under a dotted key. Only tables that dotted keys began take it; in a table that
    a header implies they may begin another. -/
def put? : (path : List String) → (name : String) → Value → Members → Option Members
  | [], name, value, members => members.add? name (.value value)
  | next :: path, name, value, members =>
      match members.lookup next with
      | none =>
          (put? path name value []).map fun inner =>
            set next (.table .dotted inner) members
      | some (.table origin inner) =>
          if origin = .defined ∨ (path.isEmpty ∧ origin ≠ .dotted) then none
          else
            (put? path name value inner).map fun inner =>
              set next (.table origin inner) members
      | some (.tables finished inner) =>
          if path.isEmpty then none
          else
            (put? path name value inner).map fun inner =>
              set next (.tables finished inner) members
      | some (.value _) => none

/-- Changes the members of the table at a path. Tables that are not there are implied, and of an
    array of tables the last one is meant. -/
def within? (change : Members → Option Members) : (path : List String) → Members → Option Members
  | [], members => change members
  | next :: path, members =>
      match members.lookup next with
      | none =>
          (within? change path []).map fun inner =>
            set next (.table .implied inner) members
      | some (.table origin inner) =>
          (within? change path inner).map fun inner =>
            set next (.table origin inner) members
      | some (.tables finished inner) =>
          (within? change path inner).map fun inner =>
            set next (.tables finished inner) members
      | some (.value _) => none

def define? (key : Key) : Members → Option Members :=
  within? (fun members =>
    match members.lookup key.name with
    | none => some (set key.name (.table .defined []) members)
    | some (.table .implied inner) =>
        some (set key.name (.table .defined inner) (erase members key.name))
    | some _ => none) key.path

def extend? (key : Key) : Members → Option Members :=
  within? (fun members =>
    match members.lookup key.name with
    | none => some (set key.name (.tables [] []) members)
    | some (.tables finished inner) =>
        some (set key.name (.tables (finished ++ [.table (toValues inner)]) []) members)
    | some _ => none) key.path

end Members

def tableOfPairs? (pairs : List (Key × Value)) : Option Value :=
  (pairs.foldlM (fun members pair => Members.put? pair.1.path pair.1.name pair.2 members) []).map
    fun members => .table (Members.toValues members)

end ReleaseDrift.Toml
