import Dashboard.Http.Target
import Dashboard.Http.Token

namespace Dashboard.Http

/-- A method is one of those that routes tell apart, or any other token. -/
inductive Method where
  | get
  | head
  | post
  | delete
  | options
  | other (name : String)
deriving DecidableEq, Repr

namespace Method

def name : Method → String
  | get => "GET"
  | head => "HEAD"
  | post => "POST"
  | delete => "DELETE"
  | options => "OPTIONS"
  | other name => name

/-- The method with the given name, in which case matters. -/
def ofName (name : String) : Method :=
  match [get, head, post, delete, options].find? (·.name = name) with
  | some method => method
  | none => other name

end Method

/-- A header; its name is in lower case. -/
structure Header where
  name : String
  value : List Char
deriving DecidableEq, Repr

namespace Header

/-- Whether a value may hold a character: control characters are out, except for the tab. -/
def isValueChar (c : Char) : Bool := (' ' ≤ c && c ≠ '\x7f') || c = '\t'

/-- The header with the given name and value, if these are sound. -/
def ofText? (name value : String) : Option Header :=
  if isToken name.toList && value.toList.all isValueChar then
    some ⟨String.ofList (name.toList.map Char.toLower), value.toList⟩
  else none

end Header

def occurs (word : List Char) : List Char → Bool
  | [] => word.isEmpty
  | c :: rest => word.isPrefixOf (c :: rest) || occurs word rest

structure Request where
  method : Method
  /-- The path as it came in, escapes and all. -/
  path : List Char
  headers : List Header
  body : List UInt8
  /-- The address of the connection, where it is known. -/
  peer : Option String
  /-- Whether the connection can be given over to another protocol. -/
  canUpgrade : Bool
deriving Repr

namespace Request

def header? (request : Request) (name : String) : Option (List Char) :=
  (request.headers.find? (·.name = name)).map Header.value

/-- The first value of a header, if it is visible text. -/
def textHeader? (request : Request) (name : String) : Option (List Char) :=
  (request.header? name).filter fun value => value.all fun c => c.toNat < 0x7f

/-- Whether a header holds just a word in lower case, cases apart. -/
def headerIs (request : Request) (name word : String) : Bool :=
  match request.header? name with
  | some value => value.map Char.toLower == word.toList
  | none => false

/-- Whether a word in lower case occurs in a header, cases apart. -/
def headerHas (request : Request) (name word : String) : Bool :=
  match request.header? name with
  | some value => occurs word.toList (value.map Char.toLower)
  | none => false

/-- The request with the given parts, if each of them is sound. -/
def ofParts? (method target : String) (headers : List (String × String)) (body : List UInt8)
    (peer : Option String) (canUpgrade : Bool) : Option Request := do
  let path ← Target.path? target
  let headers ← headers.mapM fun (name, value) => Header.ofText? name value
  if isToken method.toList then
    some ⟨.ofName method, path, headers, body, peer, canUpgrade⟩
  else none

end Request
end Dashboard.Http
