import Dashboard.Toml.Scalar
import Dashboard.Toml.Table

namespace Dashboard.Toml

/-- Whether a character may stand in a key without quotes. -/
def isBare (c : Char) : Bool := c.isAlphanum || c == '-' || c == '_'

def simpleKey : Reader String := fun input =>
  match input with
  | '"' :: rest => basicRest (rest.length + 1) [] rest
  | '\'' :: rest => literalRest rest
  | _ =>
    match input.takeWhile isBare with
    | [] => none
    | key => some (String.ofList key, input.dropWhile isBare)

/-- Keys, and brackets, may be nested less deep than this. -/
def depthLimit : Nat := 80

/-- Reads keys joined by dots, of which there are fewer than `bound`. -/
def keysUpTo (bound : Nat) (input : List Char) : Option (List String × List Char) :=
  match bound with
  | 0 => none
  | bound + 1 => do
    let (key, rest) ← simpleKey (skipBlanks input)
    match skipBlanks rest with
    | '.' :: more =>
      let (keys, rest) ← keysUpTo bound more
      return (key :: keys, rest)
    | rest => return ([key], rest)

def keys : Reader (List String) := keysUpTo (depthLimit - 1)

def splitLast : List String → Option (List String × String)
  | [] => none
  | [key] => some ([], key)
  | key :: rest => (splitLast rest).map fun (path, last) => (key :: path, last)

/-- Reads the items of a list up to its closing bracket, of which there are fewer than `bound`. -/
def listItems (value : Reader Value) (bound : Nat) (read : List Value) (input : List Char) :
    Option (Value × List Char) :=
  match bound with
  | 0 => none
  | bound + 1 => do
    let input ← skipLines? input
    match input with
    | ']' :: rest => return (.array read.reverse, rest)
    | _ =>
      let (item, rest) ← value input
      match ← skipLines? rest with
      | ',' :: rest => listItems value bound (item :: read) rest
      | ']' :: rest => return (.array (item :: read).reverse, rest)
      | _ => none

/-- Reads an assignment in a table of one line. -/
def inlineAssignment (value : Reader Value) : Reader (List String × Value) := fun input => do
  let (path, rest) ← keys input
  let rest ← take? ['='] rest
  let (found, rest) ← value (skipBlanks rest)
  return ((path, found), skipBlanks rest)

/-- Reads the assignments of a table of one line up to its closing brace, of which there are fewer
than `bound`. -/
def inlineEntries (value : Reader Value) (bound : Nat) (table : Table) (input : List Char) :
    Option (Value × List Char) :=
  match bound with
  | 0 => none
  | bound + 1 => do
    let ((path, found), rest) ← inlineAssignment value input
    let (path, key) ← splitLast path
    let table ← table.assign path key found
    match rest with
    | ',' :: rest => inlineEntries value bound table rest
    | '\x7d' :: rest => return (.table table.close, rest)
    | _ => none

/-- Reads a table of one line behind its opening brace. -/
def inlineRest (value : Reader Value) : Reader Value := fun input =>
  match skipBlanks input with
  | '\x7d' :: rest => some (.table [], rest)
  | rest => inlineEntries value (rest.length + 1) .plain rest

/-- Reads a value with at most so many brackets open at once. -/
def value : Nat → Reader Value
  | 0 => scalar
  | depth + 1 => fun input =>
    match input with
    | '[' :: rest => listItems (value depth) (rest.length + 1) [] rest
    | '\x7b' :: rest => inlineRest (value depth) rest
    | _ => scalar input

/-- A line of a document with something on it. -/
inductive Statement where
  | assign (path : List String) (value : Value)
  | header (path : List String)
  | listHeader (path : List String)

def statement : Reader Statement := fun input =>
  match input with
  | '[' :: '[' :: rest => do
    let (path, rest) ← keys rest
    return (.listHeader path, ← take? "]]".toList rest)
  | '[' :: rest => do
    let (path, rest) ← keys rest
    return (.header path, ← take? [']'] rest)
  | _ => do
    let (path, rest) ← keys input
    let (found, rest) ← value (depthLimit - 1) (skipBlanks (← take? ['='] rest))
    return (.assign path found, rest)

/-- Reads the statements of a document, of which there are fewer than `bound` lines. -/
def statements (bound : Nat) (read : List Statement) (input : List Char) :
    Option (List Statement) :=
  match bound with
  | 0 => none
  | bound + 1 =>
    match skipBlanks input with
    | [] => some read.reverse
    | c :: rest =>
      if c = '#' || c = '\n' || c = '\r' then do
        statements bound read (← endOfLine? (c :: rest))
      else do
        let (found, rest) ← statement (c :: rest)
        statements bound (found :: read) (← endOfLine? rest)

/-- Where assignments go: to the table of the last header. -/
inductive Place where
  | root
  | table (path : List String) (key : String)
  | list (path : List String) (key : String)

/-- A document while its statements are carried out. The current table is not yet in its place. -/
structure Builder where
  root : Table
  current : Table
  place : Place

namespace Builder

def start : Builder := ⟨.plain, .plain, .root⟩

def enter (key : String) (child table : Table) : Option Table :=
  match table.entries.lookup key with
  | some _ => none
  | none => some { table with
      entries := table.entries ++ [(key, .table child.origin child.entries)] }

/-- Adds a table to the list under a key. -/
def append (key : String) (child table : Table) : Option Table :=
  match table.entries.lookup key with
  | none => some { table with entries := table.entries ++ [(key, .tables [child.entries])] }
  | some (.tables items) =>
    some { table with
      entries := Association.put key (.tables (items ++ [child.entries])) table.entries }
  | some _ => none

def settle (builder : Builder) : Option Table :=
  match builder.place with
  | .root => some builder.current
  | .table path key => Table.alter false (enter key builder.current) path builder.root
  | .list path key => Table.alter false (append key builder.current) path builder.root

/-- Whether a list that headers extend can be under a key. -/
def holdsTables (key : String) (table : Table) : Option Table :=
  match table.entries.lookup key with
  | none => some table
  | some (.tables _) => some table
  | some _ => none

/-- The table that a header opens under a key of another, which is found at the end of a path, and
the root without it. -/
def openAt (path : List String) (key : String) (root : Table) : Option (Table × Table) := do
  let opened ← found path root
  let root ← Table.alter false (fun table => (table.openTable key).map Prod.snd) path root
  return (opened, root)
where
  found : List String → Table → Option Table
    | [], table => (table.openTable key).map Prod.fst
    | step :: path, table =>
      match table.entries.lookup step with
      | none => some .plain
      | some (.value _) => none
      | some (.table origin entries) => found path ⟨origin, entries⟩
      | some (.tables items) =>
        match items.getLast? with
        | some last => found path ⟨⟨false, false⟩, last⟩
        | none => none

def step (builder : Builder) (statement : Statement) : Option Builder :=
  match statement with
  | .assign path value => do
    let (path, key) ← splitLast path
    return { builder with current := ← builder.current.assign path key value }
  | .header path => do
    let root ← builder.settle
    let (path, key) ← splitLast path
    let (opened, root) ← openAt path key root
    return ⟨root, opened, .table path key⟩
  | .listHeader path => do
    let root ← builder.settle
    let (path, key) ← splitLast path
    let root ← Table.alter false (holdsTables key) path root
    return ⟨root, .plain, .list path key⟩

def run (statements : List Statement) : Option (List (String × Value)) := do
  let builder ← statements.foldlM step start
  return (← builder.settle).close

end Builder

/-- The entries of a document, unless it is malformed; a byte order mark may stand in front. -/
def parse (source : String) : Option (List (String × Value)) := do
  let input := match source.toList with
    | '\ufeff' :: rest => rest
    | rest => rest
  Builder.run (← statements (input.length + 2) [] input)

end Dashboard.Toml
