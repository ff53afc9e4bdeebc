import DashboardCompiler.Toml.Basic

/-!
# Tables under construction

A document builds its tables statement by statement. A table that a header has declared is closed to a
second header and to the points of keys; one that the points of a key have made is open to further keys of
the same section only; one that merely lies on the way to another is open to both. An array of tables is
open at its last table. A value is closed in every way.
-/

namespace DashboardCompiler.Toml

/-- How a table came to be. -/
inductive Origin where
  | onTheWay
  | declared
  /-- by the points of a key in the section with this number -/
  | pointed (part : Nat)
  deriving DecidableEq, Repr

inductive Node where
  | value (v : Toml)
  | table (origin : Origin) (fields : List (String × Node))
  | tables (items : List (List (String × Node)))

abbrev Nodes := List (String × Node)

mutual

def Node.toToml : Node → Toml
  | .value v => v
  | .table _ fields => .table (Node.fieldsToToml fields)
  | .tables items => .list (Node.itemsToToml items)

def Node.fieldsToToml : List (String × Node) → List (String × Toml)
  | [] => []
  | (key, node) :: rest => (key, node.toToml) :: Node.fieldsToToml rest

def Node.itemsToToml : List (List (String × Node)) → List Toml
  | [] => []
  | fields :: rest => .table (Node.fieldsToToml fields) :: Node.itemsToToml rest

end

namespace Nodes

/-- A new key goes to the end; a key that is there keeps its place. -/
def set (key : String) (node : Node) : Nodes → Nodes
  | [] => [(key, node)]
  | (k, n) :: rest => if k = key then (k, node) :: rest else (k, n) :: set key node rest

/-- A change inside the last table of an array. -/
def inLast (change : Nodes → Option Nodes) : List Nodes → Option (List Nodes)
  | [] => none
  | [fields] => (change fields).map ([·])
  | fields :: rest => (inLast change rest).map (fields :: ·)

/-- A change inside the table at a path; tables on the way are made where none are. -/
def within (change : Nodes → Option Nodes) : List String → Nodes → Option Nodes
  | [], fields => change fields
  | key :: rest, fields =>
    match List.lookup key fields with
    | none => (within change rest []).map fun inner => set key (.table .onTheWay inner) fields
    | some (.table origin inner) =>
      (within change rest inner).map fun inner => set key (.table origin inner) fields
    | some (.tables items) =>
      (inLast (within change rest) items).map fun items => set key (.tables items) fields
    | some (.value _) => none

/-- A header opens a table that is new or only lay on the way. -/
def declareHere (key : String) (fields : Nodes) : Option Nodes :=
  match List.lookup key fields with
  | none => some (set key (.table .declared []) fields)
  | some (.table .onTheWay inner) => some (set key (.table .declared inner) fields)
  | some _ => none

/-- A doubled header opens the next table of an array. -/
def appendHere (key : String) (fields : Nodes) : Option Nodes :=
  match List.lookup key fields with
  | none => some (set key (.tables [[]]) fields)
  | some (.tables items) => some (set key (.tables (items ++ [[]])) fields)
  | some _ => none

def declare (path : List String) (fields : Nodes) : Option Nodes := do
  let key ← path.getLast?
  within (declareHere key) path.dropLast fields

def append (path : List String) (fields : Nodes) : Option Nodes := do
  let key ← path.getLast?
  within (appendHere key) path.dropLast fields

/-- Whether the points of a key in a section may lead into a table. -/
def isOpen (part : Nat) : Origin → Bool
  | .onTheWay => true
  | .declared => false
  | .pointed other => other = part

/-- A value under a key with points, which has to be new. -/
def assign (part : Nat) (v : Toml) : List String → Nodes → Option Nodes
  | [], _ => none
  | [key], fields =>
    match List.lookup key fields with
    | none => some (set key (.value v) fields)
    | some _ => none
  | key :: rest, fields =>
    match List.lookup key fields with
    | none => (assign part v rest []).map fun inner => set key (.table (.pointed part) inner) fields
    | some (.table origin inner) =>
      if isOpen part origin then
        (assign part v rest inner).map fun inner => set key (.table (.pointed part) inner) fields
      else none
    | some _ => none

end Nodes

end DashboardCompiler.Toml
