import Dashboard.Decimal.Style
import Dashboard.Toml.Value

namespace Dashboard.Toml

/-- What a text holds that bears on how it can be quoted. -/
structure Needs where
  singleQuotes : Nat
  doubleQuotes : Nat
  /-- A control character other than tab and line feed. -/
  control : Bool
  backslash : Bool
  newline : Bool
deriving DecidableEq, Repr

def longestRun (wanted : Char) (text : List Char) : Nat :=
  (text.foldl (fun (state : Nat × Nat) c =>
    if c = wanted then (state.1 + 1, max state.2 (state.1 + 1)) else (0, state.2)) (0, 0)).2

def isControl (c : Char) : Bool :=
  (c.toNat < 32 && c != '\t' && c != '\n') || c.toNat == 127

def Needs.of (text : List Char) : Needs where
  singleQuotes := longestRun '\'' text
  doubleQuotes := longestRun '"' text
  control := text.any isControl
  backslash := text.contains '\\'
  newline := text.contains '\n'

inductive Quoting where
  | basic
  | literal
  | longBasic
  | longLiteral
deriving DecidableEq, Repr

/-- The way that suits a text: without escapes and on one line if possible. -/
def Quoting.choose (needs : Needs) : Quoting :=
  if !needs.control && !needs.backslash && needs.doubleQuotes = 0 && !needs.newline then .basic
  else if !needs.control && needs.singleQuotes = 0 && !needs.newline then .literal
  else if !needs.control && !needs.backslash && needs.doubleQuotes ≤ 2 then .longBasic
  else if !needs.control && needs.singleQuotes ≤ 2 then .longLiteral
  else if needs.newline then .longBasic
  else .basic

/-- The escape of a character that has no letter of its own. -/
def codeEscape (c : Char) : List Char :=
  let digits := (Nat.toDigits 16 c.toNat).map Char.toUpper
  '\\' :: 'u' :: List.replicate (4 - digits.length) '0' ++ digits

/-- How a character stands between double quotes, where quotes and line feeds need an escape only on
one line. -/
def escaped (isLong : Bool) (c : Char) : List Char :=
  if c = '\x08' then ['\\', 'b']
  else if c = '\t' then ['\\', 't']
  else if c = '\n' then if isLong then [c] else ['\\', 'n']
  else if c = '\x0c' then ['\\', 'f']
  else if c = '\r' then ['\\', 'r']
  else if c = '"' then if isLong then [c] else ['\\', '"']
  else if c = '\\' then ['\\', '\\']
  else if c.toNat < 32 || c.toNat = 127 then codeEscape c
  else [c]

/-- The text between long quotes with escapes; the third double quote in a row needs one. -/
def longEscaped (quotes : Nat) : List Char → List Char
  | [] => []
  | c :: rest =>
    if c = '"' then
      if quotes = 2 then '\\' :: '"' :: longEscaped 0 rest else '"' :: longEscaped (quotes + 1) rest
    else escaped true c ++ longEscaped 0 rest

/-- A text with its quotes. A long text with several lines starts on a line of its own. -/
def quoted (text : List Char) : List Char :=
  let needs := Needs.of text
  let firstBreak := if needs.newline then ['\n'] else []
  match Quoting.choose needs with
  | .basic => '"' :: text.flatMap (escaped false) ++ ['"']
  | .literal => '\'' :: text ++ ['\'']
  | .longBasic => "\"\"\"".toList ++ firstBreak ++ longEscaped 0 text ++ "\"\"\"".toList
  | .longLiteral => "'''".toList ++ firstBreak ++ text ++ "'''".toList

/-- A float; one that is no number has no sign. -/
def floatText (value : Float) : List Char :=
  if value.isNaN then "nan".toList else (Decimal.Style.setting.text value).toList

def booleanText (value : Bool) : List Char := if value then "true".toList else "false".toList

def isWritable (value : Int) : Bool :=
  -0x8000000000000000 ≤ value && value ≤ 0x7fffffffffffffff

/-- A value on one line, if it can be written there. -/
def scalarText? : Value → Option (List Char)
  | .boolean value => some (booleanText value)
  | .integer value => if isWritable value then some (toString value).toList else none
  | .float value => some (floatText value)
  | .string text => some (quoted text.toList)
  | _ => none

def line (key : String) (value : List Char) : List Char :=
  key.toList ++ " = ".toList ++ value ++ ['\n']

/-- Assignments of some values, if all of them can be written. -/
def lines? : List (String × Value) → Option (List Char)
  | [] => some []
  | (key, value) :: rest => do
    return line key (← scalarText? value) ++ (← lines? rest)

def headerLine (name : String) : List Char := '[' :: name.toList ++ "]\n".toList

/-- Sections one below the other, with blank lines between them. -/
def sections? : List (String × List (String × Value)) → Option (List Char)
  | [] => some []
  | (name, fields) :: rest => do
    let text := headerLine name ++ (← lines? fields)
    match rest with
    | [] => return text
    | next :: others => return text ++ '\n' :: (← sections? (next :: others))

end Dashboard.Toml
