import Dashboard.Http.Token

namespace Dashboard.Http.MediaType

/-- What has been read of the parameters behind a media type. -/
inductive Parameters where
  /-- Before a parameter, where blanks may stand. -/
  | start
  | name
  | valueStart
  | value
  /-- Behind an opening quote, where even a quote is part of the value. -/
  | quotedStart
  | quoted
  | afterQuoted
deriving DecidableEq, Repr

namespace Parameters

def isQuotedChar (c : Char) : Bool := ' ' ≤ c && c ≠ '\x7f'

def next (state : Parameters) (c : Char) : Option Parameters :=
  match state with
  | start => if c = ' ' then some start else if isTokenChar c then some name else none
  | name => if c = '=' then some valueStart else if isTokenChar c then some name else none
  | valueStart =>
    if c = '"' then some quotedStart else if isTokenChar c then some value else none
  | value => if c = ';' then some start else if isTokenChar c then some value else none
  | quotedStart => if isQuotedChar c then some quoted else none
  | quoted =>
    if c = '"' then some afterQuoted else if isQuotedChar c then some quoted else none
  | afterQuoted => if c = ';' then some start else if c = ' ' then some afterQuoted else none

def mayEnd : Parameters → Bool
  | start | valueStart | value | afterQuoted => true
  | _ => false

end Parameters

def areParameters (text : List Char) : Bool :=
  match text.foldlM Parameters.next Parameters.start with
  | some state => state.mayEnd
  | none => false

/-- The parts of a subtype before and behind its last plus sign; one at the start is part of a
name. -/
def splitSuffix (subtype : List Char) : List Char × Option (List Char) :=
  let suffix := (subtype.reverse.takeWhile (· ≠ '+')).reverse
  let front := subtype.take (subtype.length - suffix.length - 1)
  if front.isEmpty then (subtype, none) else (front, some suffix)

/-- The name of JSON as a subtype and as a suffix. -/
def jsonName : List Char := "json".toList

/-- Whether a text is the media type of JSON data, or of data in JSON form. -/
def isJson (text : List Char) : Bool :=
  let text := text.map Char.toLower
  let kind := text.takeWhile (· ≠ '/')
  let rest := text.drop (kind.length + 1)
  let subtype := rest.takeWhile (· ≠ ';')
  let (front, suffix) := splitSuffix subtype
  kind == "application".toList && isToken subtype &&
    areParameters (rest.drop (subtype.length + 1)) &&
    (front == jsonName || suffix == some jsonName)

end Dashboard.Http.MediaType
