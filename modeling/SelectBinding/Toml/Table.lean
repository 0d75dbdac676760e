import SelectBinding.Data.Value

/-!
Tables of a TOML text while it is read.

A table comes into being in one of three ways, and this decides whether more may be put into it: by
a header of its own, as the parent of a table with a header, or by a key with points. No key of a
table is ever given twice.
-/

namespace SelectBinding.Toml

/-- How a table came into being. -/
inductive Origin where
  /-- By its own header, or as the whole text. -/
  | header
  /-- As the parent of a table with a header. -/
  | parent
  /-- By a key with points. -/
  | points
deriving Repr, DecidableEq

/-- What a key stands for. -/
inductive Node where
  | value (data : Data)
  | table (origin : Origin) (members : List (String × Node))
  /-- Tables under one header in double brackets, the last one first. -/
  | tables (last : List (String × Node)) (before : List (List (String × Node)))

/-- The members of a table. -/
abbrev Members := List (String × Node)

/-- The members with one key standing for something else. -/
def put (key : String) (node : Node) : Members → Members
  | [] => [(key, node)]
  | (k, n) :: rest => if k = key then (key, node) :: rest else (k, n) :: put key node rest

/-- A change to a table, which is given with its origin. -/
abbrev Change := Origin → Members → Option (Origin × Members)

/-- The change made to the table at the end of a path. Missing tables come into being as `missing`
says; a path of a key with points may not lead into a table with a header. -/
def changeAt (missing : Origin) (change : Change) : List String → Change
  | [], origin, members => change origin members
  | key :: path, origin, members =>
    match members.lookup key with
    | none => do
      let (origin', inside) ← changeAt missing change path missing []
      return (origin, put key (.table origin' inside) members)
    | some (.value _) => none
    | some (.tables last before) => do
      let (_, last) ← changeAt missing change path .header last
      return (origin, put key (.tables last before) members)
    | some (.table origin' inside) => do
      if missing = .points ∧ origin' = .header then none
      else
        let (origin', inside) ← changeAt missing change path origin' inside
        return (origin, put key (.table origin' inside) members)

/-- The table with one more key. A key without points goes into a table that came into being
without points, and a key with points into one that came into being by points. -/
def addValue (withPoints : Bool) (key : String) (data : Data) : Change :=
  fun origin members =>
    if withPoints != (origin == .points) then none
    else
      match members.lookup key with
      | none => some (origin, members ++ [(key, .value data)])
      | some _ => none

/-- The table with a value under a path. -/
def addAt (path : List String) (key : String) (data : Data) : Change :=
  changeAt .points (addValue (!path.isEmpty) key data) path

/-- The table with a table under a header. -/
def addTable (key : String) : Change :=
  fun origin members =>
    match members.lookup key with
    | none => some (origin, put key (.table .header []) members)
    | some (.table .parent inside) => some (origin, put key (.table .header inside) members)
    | some _ => none

/-- The table with one more table under a header in double brackets. -/
def addTableItem (key : String) : Change :=
  fun origin members =>
    match members.lookup key with
    | none => some (origin, put key (.tables [] []) members)
    | some (.tables last before) => some (origin, put key (.tables [] (last :: before)) members)
    | some _ => none

mutual

/-- The value of a key. -/
def Node.toData : Node → Data
  | .value data => data
  | .table _ members => .record (membersToData members)
  | .tables last before =>
    .list ((itemsToData before).reverse ++ [.record (membersToData last)])

/-- The values of members. -/
def membersToData : List (String × Node) → List (String × Data)
  | [] => []
  | (key, node) :: rest => (key, node.toData) :: membersToData rest

/-- The values of tables. -/
def itemsToData : List (List (String × Node)) → List Data
  | [] => []
  | members :: rest => .record (membersToData members) :: itemsToData rest

end

end SelectBinding.Toml
