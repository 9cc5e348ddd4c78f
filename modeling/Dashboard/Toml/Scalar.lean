import Dashboard.Decimal.Reading
import Dashboard.Text.Hex
import Dashboard.Toml.Value

namespace Dashboard.Toml

abbrev Reader (α : Type) := List Char → Option (α × List Char)

/-- Whether a character is a blank inside a line. -/
def isBlank (c : Char) : Bool := c == ' ' || c == '\t'

def skipBlanks (input : List Char) : List Char := input.dropWhile isBlank

/-- Control characters other than the tab may stand nowhere. -/
def isPlain (c : Char) : Bool := c == '\t' || (32 ≤ c.toNat && c.toNat ≠ 127)

def take? : List Char → List Char → Option (List Char)
  | [], input => some input
  | _ :: _, [] => none
  | expected :: more, c :: rest => if c = expected then take? more rest else none

def lineBreak? (input : List Char) : Option (List Char) :=
  match input with
  | '\n' :: rest => some rest
  | '\r' :: '\n' :: rest => some rest
  | _ => none

/-- The text without a line break at the front, if there is one. -/
def skipLineBreak (input : List Char) : List Char := (lineBreak? input).getD input

/-- The text behind a comment, if one starts here. -/
def skipComment (input : List Char) : List Char :=
  match input with
  | '#' :: rest => rest.dropWhile isPlain
  | _ => input

/-- Passes over blanks and a comment up to the end of the line or of the text. -/
def endOfLine? (input : List Char) : Option (List Char) :=
  match skipComment (skipBlanks input) with
  | [] => some []
  | rest => lineBreak? rest

/-- Passes over blanks, line breaks and comments; a comment must end with its line. -/
def skipLines? (input : List Char) : Option (List Char) :=
  let rest := skipBlanks input
  match rest with
  | '#' :: _ =>
    match _found : lineBreak? (skipComment rest) with
    | some next => if next.length < input.length then skipLines? next else none
    | none => none
  | _ =>
    match _found : lineBreak? rest with
    | some next => if next.length < input.length then skipLines? next else none
    | none => some rest
termination_by input.length

def scalar? (code : Nat) : Option Char := if code.isValidChar then some (Char.ofNat code) else none

/-- Reads exactly `count` hexadecimal digits of a code point. -/
def codePoint (count : Nat) : Reader Char := fun input =>
  if input.length < count then none
  else do
    let code ← Text.Hex.value? (input.take count)
    let c ← scalar? code
    return (c, input.drop count)

def escape : Reader Char := fun input =>
  match input with
  | [] => none
  | c :: rest =>
    if c = 'b' then some ('\x08', rest)
    else if c = 't' then some ('\t', rest)
    else if c = 'n' then some ('\n', rest)
    else if c = 'f' then some ('\x0c', rest)
    else if c = 'r' then some ('\r', rest)
    else if c = '"' then some ('"', rest)
    else if c = '\\' then some ('\\', rest)
    else if c = 'u' then codePoint 4 rest
    else if c = 'U' then codePoint 8 rest
    else none

/-- Reads a text of one line behind its opening quote, with escapes. The readers of texts take
`bound` as a bound on their steps and `read` as what is already read, in reverse order. -/
def basicRest (bound : Nat) (read : List Char) (input : List Char) :
    Option (String × List Char) :=
  match bound with
  | 0 => none
  | bound + 1 =>
    match input with
    | [] => none
    | c :: rest =>
      if c = '"' then some (String.ofList read.reverse, rest)
      else if c = '\\' then
        match escape rest with
        | some (meant, rest) => basicRest bound (meant :: read) rest
        | none => none
      else if isPlain c then basicRest bound (c :: read) rest
      else none

/-- Reads a text of one line behind its opening quote, without escapes. -/
def literalRest : Reader String := fun input =>
  let text := input.takeWhile fun c => isPlain c && c != '\''
  match input.dropWhile fun c => isPlain c && c != '\'' with
  | '\'' :: rest => some (String.ofList text, rest)
  | _ => none

def quotesAhead (quote : Char) (input : List Char) : Nat := (input.takeWhile (· == quote)).length

/-- Passes over the rest of a line, which must be blank, and further blank lines. -/
def skipBlankLines? (input : List Char) : Option (List Char) :=
  (lineBreak? (skipBlanks input)).map fun rest =>
    rest.dropWhile fun c => isBlank c || c == '\n' || c == '\r'

/-- A carriage return among the characters that were passed over stands before a line break. -/
def returnsPaired : List Char → Bool
  | [] => true
  | '\r' :: rest => (lineBreak? ('\r' :: rest)).isSome && returnsPaired rest
  | _ :: rest => returnsPaired rest

/-- Reads a text of several lines behind its opening quotes. Three quotes close it, with up to two
more before them that belong to it. -/
def longRest (quote : Char) (hasEscapes : Bool) (bound : Nat) (read : List Char)
    (input : List Char) : Option (String × List Char) :=
  match bound with
  | 0 => none
  | bound + 1 =>
    match input with
    | [] => none
    | c :: rest =>
      if c = quote then
        let count := quotesAhead quote input
        if count < 3 then
          longRest quote hasEscapes bound (List.replicate count quote ++ read) (input.drop count)
        else
          let own := min (count - 3) 2
          some (String.ofList (List.replicate own quote ++ read).reverse, input.drop (own + 3))
      else if hasEscapes && c = '\\' then
        match escape rest with
        | some (meant, rest) => longRest quote hasEscapes bound (meant :: read) rest
        | none =>
          match skipBlankLines? rest with
          | some next =>
            if returnsPaired (rest.take (rest.length - next.length)) then
              longRest quote hasEscapes bound read next
            else none
          | none => none
      else match lineBreak? input with
        | some rest => longRest quote hasEscapes bound ('\n' :: read) rest
        | none => if isPlain c then longRest quote hasEscapes bound (c :: read) rest else none

/-- Reads a text of any of the four kinds. -/
def text : Reader String := fun input =>
  match input with
  | '"' :: '"' :: '"' :: rest => longRest '"' true (rest.length + 1) [] (skipLineBreak rest)
  | '\'' :: '\'' :: '\'' :: rest => longRest '\'' false (rest.length + 1) [] (skipLineBreak rest)
  | '"' :: rest => basicRest (rest.length + 1) [] rest
  | '\'' :: rest => literalRest rest
  | _ => none

/-- Reads digits of which the first is one and every underscore stands between two. -/
def digitRun (isDigit : Char → Bool) : Reader (List Char) := fun input =>
  match input with
  | [] => none
  | c :: rest => if isDigit c then (more rest).map fun (digits, rest) => (c :: digits, rest) else none
where
  more : List Char → Option (List Char × List Char)
    | [] => some ([], [])
    | [c] => if isDigit c then some ([c], []) else if c = '_' then none else some ([], [c])
    | c :: next :: rest =>
      if isDigit c then (more (next :: rest)).map fun (digits, rest) => (c :: digits, rest)
      else if c = '_' then
        if isDigit next then (more (next :: rest)).map fun (digits, rest) => (digits, rest)
        else none
      else some ([], c :: next :: rest)

/-- Reads the digits of a whole number, of which the first is zero only if it stands alone. -/
def wholeDigits : Reader (List Char) := fun input =>
  match input with
  | '0' :: rest => some (['0'], rest)
  | _ => digitRun Char.isDigit input

def sign : List Char → List Char × List Char
  | '+' :: rest => ([], rest)
  | '-' :: rest => (['-'], rest)
  | rest => ([], rest)

def exponent : Reader (List Char) := fun input =>
  let (negative, rest) := sign input
  (digitRun Char.isDigit rest).map fun (digits, rest) => ('e' :: negative ++ digits, rest)

/-- What may follow the whole part of a number and makes it a float. -/
inductive Tail where
  | none
  | float (text : List Char)

/-- Reads the fraction and the exponent of a number, if there are any. -/
def numberTail : Reader Tail := fun input =>
  let withExponent (fraction : List Char) (rest : List Char) : Option (Tail × List Char) :=
    match rest with
    | [] => some (.float fraction, [])
    | c :: more =>
      if c = 'e' || c = 'E' then
        (exponent more).map fun (text, rest) => (.float (fraction ++ text), rest)
      else some (.float fraction, rest)
  match input with
  | [] => some (.none, [])
  | c :: rest =>
    if c = '.' then
      match digitRun Char.isDigit rest with
      | some (digits, rest) => withExponent ('.' :: digits) rest
      | none => none
    else if c = 'e' || c = 'E' then withExponent [] input
    else some (.none, input)

/-- A whole number that 64 bits hold with their sign. -/
def integer? (value : Int) : Option Value :=
  if -0x8000000000000000 ≤ value ∧ value < 0x8000000000000000 then some (.integer value) else none

/-- A float that is not beyond the greatest. -/
def float? (text : List Char) : Option Value :=
  match Decimal.float? (String.ofList text) with
  | some value => if value == Decimal.infinity then none else some (.float value)
  | none => none

def namedFloat (isNegative : Bool) : Reader Value := fun input =>
  let signed (value : Float) : Value := .float (if isNegative then -value else value)
  match take? "inf".toList input with
  | some rest => some (signed Decimal.infinity, rest)
  | none => (take? "nan".toList input).map fun rest => (signed Decimal.notANumber, rest)

def decimalNumber : Reader Value := fun input =>
  let (negative, rest) := sign input
  match namedFloat (!negative.isEmpty) rest with
  | some found => some found
  | none => do
    let (whole, rest) ← wholeDigits rest
    let (tail, rest) ← numberTail rest
    match tail with
    | .none =>
      let size : Int := Decimal.digitsValue 0 whole
      return (← integer? (if negative.isEmpty then size else -size), rest)
    | .float text => return (← float? (negative ++ whole ++ text), rest)

/-- Reads the digits of a number in another base behind its mark. -/
def basedNumber (base : Nat) : Reader Value := fun input => do
  let isDigit (c : Char) : Bool := ((Text.Hex.digit? c).getD base) < base
  let (digits, rest) ← digitRun isDigit input
  let value := digits.foldl (fun value digit => base * value + (Text.Hex.digit? digit).getD 0) 0
  return (← integer? value, rest)

/-- Reads `count` digits that write a number within bounds. -/
def boundedDigits (count least greatest : Nat) : Reader Nat := fun input =>
  let digits := input.take count
  if digits.length = count && digits.all Char.isDigit then
    let value := Decimal.digitsValue 0 digits
    if least ≤ value ∧ value ≤ greatest then some (value, input.drop count) else none
  else none

def daysInMonth (year month : Nat) : Nat :=
  if month = 2 then if year % 4 = 0 ∧ (year % 100 ≠ 0 ∨ year % 400 = 0) then 29 else 28
  else if month = 4 ∨ month = 6 ∨ month = 9 ∨ month = 11 then 30
  else 31

def date (input : List Char) : Option (List Char) := do
  let (year, rest) ← boundedDigits 4 0 9999 input
  let rest ← take? ['-'] rest
  let (month, rest) ← boundedDigits 2 1 12 rest
  let rest ← take? ['-'] rest
  let (_, rest) ← boundedDigits 2 1 (daysInMonth year month) rest
  return rest

/-- Reads a time of day, with a fraction of a second if there is one. -/
def time (input : List Char) : Option (List Char) := do
  let (_, rest) ← boundedDigits 2 0 23 input
  let rest ← take? [':'] rest
  let (_, rest) ← boundedDigits 2 0 59 rest
  let rest ← take? [':'] rest
  let (_, rest) ← boundedDigits 2 0 60 rest
  match rest with
  | '.' :: fraction =>
    if fraction.head?.any Char.isDigit then return fraction.dropWhile Char.isDigit else none
  | _ => return rest

/-- Reads the distance of a time zone, if there is one. -/
def offset (input : List Char) : Option (List Char) :=
  match input with
  | [] => some []
  | c :: rest =>
    if c = 'Z' || c = 'z' then some rest
    else if c = '+' || c = '-' then do
      let (_, rest) ← boundedDigits 2 0 23 rest
      let rest ← take? [':'] rest
      let (_, rest) ← boundedDigits 2 0 59 rest
      return rest
    else some input

/-- Whether a date, and a time, must start here because of the mark behind its first number. -/
def startsDate (input : List Char) : Bool :=
  (input.take 4).length == 4 && (input.take 4).all Char.isDigit && input[4]? == some '-'

def startsTime (input : List Char) : Bool :=
  (input.take 2).length == 2 && (input.take 2).all Char.isDigit && input[2]? == some ':'

/-- Reads a date with the time that may follow it. -/
def dateTime : Reader Value := fun input => do
  let rest ← date input
  match rest with
  | c :: more =>
    if (c = 'T' || c = 't' || c = ' ') && startsTime more then
      return (.datetime, ← offset (← time more))
    else return (.datetime, rest)
  | [] => return (.datetime, [])

def scalar : Reader Value := fun input =>
  match input with
  | [] => none
  | c :: rest =>
    if c = '"' || c = '\'' then (text input).map fun (text, rest) => (.string text, rest)
    else if c = 't' then (take? "rue".toList rest).map fun rest => (.boolean true, rest)
    else if c = 'f' then (take? "alse".toList rest).map fun rest => (.boolean false, rest)
    else if c = 'i' || c = 'n' || c = '+' || c = '-' then decimalNumber input
    else if c.isDigit then
      if startsDate input then dateTime input
      else if startsTime input then (time input).map fun rest => (.datetime, rest)
      else match input with
        | '0' :: 'x' :: digits => basedNumber 16 digits
        | '0' :: 'o' :: digits => basedNumber 8 digits
        | '0' :: 'b' :: digits => basedNumber 2 digits
        | _ => decimalNumber input
    else none

end Dashboard.Toml
