import Dashboard.Association
import Dashboard.Toml.Value

namespace Dashboard.Toml

/-- How a table came about: on the way to another one or by itself, and by a dotted key or not. -/
structure Origin where
  isImplicit : Bool
  isDotted : Bool
deriving DecidableEq, Repr

/-- What a key of a growing table stands for: a value, a table, or the tables of a list that
headers extend. -/
inductive Node where
  | value (value : Value)
  | table (origin : Origin) (entries : List (String × Node))
  | tables (items : List (List (String × Node)))

structure Table where
  origin : Origin
  entries : List (String × Node)

namespace Table

/-- The table that a document or a header starts with. -/
def plain : Table := ⟨⟨false, false⟩, []⟩

/-- Applies a change to the table at the end of a path, creating the tables on the way. A path of
dotted keys does not enter tables that stand by themselves. -/
def alter (isDotted : Bool) (change : Table → Option Table) : List String → Table → Option Table
  | [], table => change table
  | key :: path, table =>
    match table.entries.lookup key with
    | none =>
      (alter isDotted change path ⟨⟨true, isDotted⟩, []⟩).map fun child =>
        { table with entries := table.entries ++ [(key, .table child.origin child.entries)] }
    | some (.value _) => none
    | some (.table origin entries) =>
      if isDotted && !origin.isImplicit then none
      else (alter isDotted change path ⟨origin, entries⟩).map fun child =>
        { table with
          entries := Association.put key (.table child.origin child.entries) table.entries }
    | some (.tables items) =>
      match items.reverse with
      | [] => none
      | last :: before =>
        (alter isDotted change path ⟨⟨false, false⟩, last⟩).map fun child =>
          { table with
            entries :=
              Association.put key (.tables (before.reverse ++ [child.entries])) table.entries }

/-- Adds a value under a new key, which is the last of a path of dotted keys. -/
def assign (path : List String) (key : String) (value : Value) (table : Table) : Option Table :=
  alter true (fun table =>
    if table.origin.isDotted == path.isEmpty then none
    else match table.entries.lookup key with
      | some _ => none
      | none => some { table with entries := table.entries ++ [(key, .value value)] }) path table

/-- The table that a header opens: a new one, or one that was only created on the way so far, which
then loses its old place. -/
def openTable (key : String) (table : Table) : Option (Table × Table) :=
  match table.entries.lookup key with
  | none => some (.plain, table)
  | some (.table origin entries) =>
    if origin.isImplicit && !origin.isDotted then
      some (⟨⟨false, false⟩, entries⟩,
        { table with entries := table.entries.filter fun entry => entry.1 != key })
    else none
  | some _ => none

mutual

def ofNode : Node → Value
  | .value value => value
  | .table _ entries => .table (ofEntries entries)
  | .tables items => .array (ofItems items)

def ofEntries : List (String × Node) → List (String × Value)
  | [] => []
  | (key, node) :: rest => (key, ofNode node) :: ofEntries rest

def ofItems : List (List (String × Node)) → List Value
  | [] => []
  | entries :: rest => .table (ofEntries entries) :: ofItems rest

end

def close (table : Table) : List (String × Value) := ofEntries table.entries

end Table
end Dashboard.Toml
