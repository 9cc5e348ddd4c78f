import Dashboard.Association
import Dashboard.Text.Blank
import Dashboard.Text.Utf8

/-! Files and directories, and what can go wrong with them. A path is walked component by component, from
the root or from the working directory, so that every component on the way has to be a directory. There are
no links, and everything may be read and written. -/

namespace Dashboard

namespace Files

/-- Why a file cannot be read or written. -/
inductive Trouble where
  | notFound
  | notDirectory
  | isDirectory
  | nameTooLong
  | nulInName
  | notText
deriving DecidableEq, Repr

def Trouble.text : Trouble → String
  | notFound => "No such file or directory (os error 2)"
  | notDirectory => "Not a directory (os error 20)"
  | isDirectory => "Is a directory (os error 21)"
  | nameTooLong => "File name too long (os error 36)"
  | nulInName => "file name contained an unexpected NUL byte"
  | notText => "stream did not contain valid UTF-8"

inductive Entry where
  | file (bytes : List UInt8)
  | directory
deriving DecidableEq, Repr

/-- The names on the way from the root. -/
abbrev Path := List String

end Files

/-- What is stored under which path, and the working directory. The root itself is not listed. -/
structure Files where
  entries : List (Files.Path × Files.Entry)
  home : Files.Path
deriving Repr

namespace Files

def entry? (files : Files) (path : Path) : Option Entry :=
  if path.isEmpty then some .directory else files.entries.lookup path

/-- The components of a written path. One that is absolute starts with an empty component. -/
def components (name : String) : List String :=
  (Text.fields '/' name.toList).map String.ofList

/-- The greatest number of bytes in a component. -/
def longestName : Nat := 255

/-- The greatest number of bytes in a written path. -/
def longestPath : Nat := 4095

/-- Where a component leads from a directory. Above the root is the root. -/
def onward (here : Path) (component : String) : Path :=
  if component = "" ∨ component = "." then here
  else if component = ".." then here.dropLast
  else here ++ [component]

def enter (files : Files) (here : Path) (component : String) : Except Trouble Path :=
  match files.entry? here with
  | none => .error .notFound
  | some (.file _) => .error .notDirectory
  | some .directory =>
    if component.utf8ByteSize > longestName then .error .nameTooLong else .ok (onward here component)

/-- Where a written path starts: at the root or in the working directory. -/
def origin (files : Files) (name : String) : Path :=
  if name.toList.head? = some '/' then [] else files.home

/-- Walks along the components of a written path. -/
def walk (files : Files) (name : String) (components : List String) : Except Trouble Path :=
  if name.toList.contains '\x00' then .error .nulInName
  else if name = "" then .error .notFound
  else if name.utf8ByteSize > longestPath then .error .nameTooLong
  else components.foldlM files.enter (files.origin name)

/-- Whether a path ends in a way that asks for a directory. -/
def asksForDirectory (components : List String) : Bool :=
  match components.getLast? with
  | some last => last == "" || last == "." || last == ".."
  | none => false

def find (files : Files) (name : String) : Except Trouble Entry := do
  let components := components name
  let path ← files.walk name components
  match files.entry? path with
  | none => .error .notFound
  | some .directory => .ok .directory
  | some (.file bytes) =>
    if asksForDirectory components then .error .notDirectory else .ok (.file bytes)

def contains (files : Files) (name : String) : Bool := (files.find name).isOk

def read (files : Files) (name : String) : Except Trouble String :=
  match files.find name with
  | .error trouble => .error trouble
  | .ok .directory => .error .isDirectory
  | .ok (.file bytes) =>
    match Text.Utf8.decode? bytes with
    | some text => .ok (String.ofList text)
    | none => .error .notText

/-- The components before the last one that is not empty. -/
def leading (components : List String) : List String :=
  (components.reverse.dropWhile (· = "")).reverse.dropLast

/-- The files after an entry was put under a path. -/
def placing (files : Files) (path : Path) (entry : Entry) : Files :=
  { files with entries := Association.put path entry files.entries }

/-- Writes a file, whose directory must be there. -/
def write (files : Files) (name : String) (bytes : List UInt8) : Except Trouble Files := do
  let components := components name
  let directory ← files.walk name (leading components)
  match files.entry? directory with
  | none => .error .notFound
  | some (.file _) => .error .notDirectory
  | some .directory =>
    if asksForDirectory components then .error .isDirectory
    else
      let path ← files.enter directory (components.getLast?.getD "")
      match files.entry? path with
      | some .directory => .error .isDirectory
      | _ => .ok (files.placing path (.file bytes))

/-- Makes the directories on a way that are missing. What lies behind a file is left out. -/
def makeWay (files : Files) (here : Path) : List String → Files
  | [] => files
  | component :: rest =>
    let there := onward here component
    match files.entry? there with
    | some (.file _) => files
    | some .directory => files.makeWay there rest
    | none => (files.placing there .directory).makeWay there rest

def makeDirectory (files : Files) (name : String) : Files :=
  files.makeWay (files.origin name) (components name)

/-- Puts a file where a path asks for it, with the directories on the way; what cannot be written is
left out. -/
def putFile (files : Files) (name : String) (bytes : List UInt8) : Files :=
  let plain := (components name).filter fun component => component ≠ "" && component ≠ "."
  let files := files.makeWay (files.origin name) plain.dropLast
  match files.write name bytes with
  | .ok files => files
  | .error _ => files

/-- Nothing but the directories on the way to a working directory. -/
def within (home : Path) : Files := (⟨[], home⟩ : Files).makeWay [] home

def empty : Files := within ["srv", "dashhub"]

end Files
end Dashboard
