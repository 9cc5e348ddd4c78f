import Dashboard.Json.Symbol
import Dashboard.Schema.Misfit

namespace Dashboard.Json

inductive Cause where
  | endInList
  | endInObject
  | endInString
  | endInValue
  | expectedColon
  | expectedListEnd
  | expectedObjectEnd
  | expectedWord
  | expectedValue
  | badEscape
  | badNumber
  | numberOutOfRange
  | badCodePoint
  | controlCharacter
  | keyNotString
  | loneSurrogate
  | missingTrail
  | trailingComma
  | trailingCharacters
  | tooDeep
  | misfit (reason : Schema.Misfit)
deriving Repr

/-- Whether the text ended too early, is no JSON, or is JSON of another shape than expected. -/
inductive Category where
  | tooShort
  | malformed
  | misshapen
deriving DecidableEq, Repr

namespace Cause

def category : Cause → Category
  | endInList | endInObject | endInString | endInValue => .tooShort
  | misfit _ => .misshapen
  | _ => .malformed

def text : Cause → String
  | endInList => "EOF while parsing a list"
  | endInObject => "EOF while parsing an object"
  | endInString => "EOF while parsing a string"
  | endInValue => "EOF while parsing a value"
  | expectedColon => "expected `:`"
  | expectedListEnd => "expected `,` or `]`"
  | expectedObjectEnd => "expected `,` or `\x7d`"
  | expectedWord => "expected ident"
  | expectedValue => "expected value"
  | badEscape => "invalid escape"
  | badNumber => "invalid number"
  | numberOutOfRange => "number out of range"
  | badCodePoint => "invalid unicode code point"
  | controlCharacter => "control character (\\u0000-\\u001F) found while parsing a string"
  | keyNotString => "key must be a string"
  | loneSurrogate => "lone leading surrogate in hex escape"
  | missingTrail => "unexpected end of hex escape"
  | trailingComma => "trailing comma"
  | trailingCharacters => "trailing characters"
  | tooDeep => "recursion limit exceeded"
  | misfit reason => reason.text Decimal.Style.json

end Cause

/-- A step from a value to one inside it; a key that could not be read is unknown. -/
inductive Segment where
  | key (name : String)
  | index (place : Nat)
  | unknown
deriving DecidableEq, Repr

/-- A cause, the number of bytes behind its place if it has one, and the way to the value that was
being read. -/
structure Fault where
  cause : Cause
  left : Option Nat
  path : List Segment
deriving Repr

namespace Fault

/-- A fault right before the rest of the text. -/
def before (cause : Cause) (rest : List Symbol) : Fault := ⟨cause, some (Symbol.bytesOf rest), []⟩

/-- A fault one byte into the rest of the text. -/
def inside (cause : Cause) (rest : List Symbol) : Fault :=
  ⟨cause, some (Symbol.bytesOf rest - 1), []⟩

/-- Data of the wrong shape, whose place is not yet known. -/
def misfit (reason : Schema.Misfit) : Fault := ⟨.misfit reason, none, []⟩

/-- Gives a fault without a place the place right before the rest of the text. -/
def settle (fault : Fault) (rest : List Symbol) : Fault :=
  match fault.left with
  | some _ => fault
  | none => { fault with left := some (Symbol.bytesOf rest) }

def within (segment : Segment) (fault : Fault) : Fault :=
  { fault with path := segment :: fault.path }

/-- The text of a fault that arose in reading `source`. -/
def text (source : List Symbol) (fault : Fault) : String :=
  match fault.left with
  | some left => fault.cause.text ++ " at " ++ (Position.ofLeft source left).text
  | none => fault.cause.text

/-- The steps joined: keys by points, places in brackets. -/
def pathText : Bool → List Segment → String
  | _, [] => ""
  | _, .index place :: rest => "[" ++ toString place ++ "]" ++ pathText false rest
  | isFirst, .key name :: rest => (if isFirst then "" else ".") ++ name ++ pathText false rest
  | isFirst, .unknown :: rest => (if isFirst then "" else ".") ++ "?" ++ pathText false rest

/-- The text of a fault behind the way to it, where any of that is known. -/
def textWithPath (source : List Symbol) (fault : Fault) : String :=
  if fault.path.all (· == .unknown) then fault.text source
  else pathText true fault.path ++ ": " ++ fault.text source

end Fault

/-- A reader takes a value off the front of a text. -/
abbrev Reader (α : Type) := List Symbol → Except Fault (α × List Symbol)

end Dashboard.Json
