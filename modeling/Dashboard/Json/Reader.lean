import Dashboard.Json.Numeral
import Dashboard.Json.Quoted

namespace Dashboard.Json

def isSpace : Symbol → Bool
  | .char c => c == ' ' || c == '\n' || c == '\t' || c == '\r'
  | .stray _ => false

def skipBlanks (input : List Symbol) : List Symbol := input.dropWhile isSpace

/-- Passes over the rest of a word whose first letter has been seen. -/
def word : List Char → List Symbol → Except Fault (List Symbol)
  | [], input => .ok input
  | _ :: _, [] => .error (.before .endInValue [])
  | expected :: more, symbol :: rest =>
    if symbol = .char expected then word more rest
    else .error (.inside .expectedWord (symbol :: rest))

/-- The place of the next item of a list, or nothing at its closing bracket. -/
def nextItem? (isFirst : Bool) (input : List Symbol) : Except Fault (Option (List Symbol)) :=
  match skipBlanks input with
  | [] => .error (.inside .endInList [])
  | symbol :: rest =>
    if symbol = .char ']' then .ok none
    else if isFirst then .ok (some (symbol :: rest))
    else if symbol = .char ',' then
      match skipBlanks rest with
      | [] => .error (.inside .endInValue [])
      | next :: others =>
        if next = .char ']' then .error (.inside .trailingComma (next :: others))
        else .ok (some (next :: others))
    else .error (.inside .expectedListEnd (symbol :: rest))

def keyText (input : List Symbol) : Except Fault (Option (String × List Symbol)) :=
  (quotedText (input.drop 1)).map some

/-- The next key of an object, or nothing at its closing brace. -/
def nextKey? (isFirst : Bool) (input : List Symbol) :
    Except Fault (Option (String × List Symbol)) :=
  match skipBlanks input with
  | [] => .error (.inside .endInObject [])
  | symbol :: rest =>
    if symbol = .char '\x7d' then .ok none
    else if isFirst then
      if symbol = .char '"' then keyText (symbol :: rest)
      else .error (.inside .keyNotString (symbol :: rest))
    else if symbol = .char ',' then
      match skipBlanks rest with
      | [] => .error (.inside .endInValue [])
      | next :: others =>
        if next = .char '"' then keyText (next :: others)
        else if next = .char '\x7d' then .error (.inside .trailingComma (next :: others))
        else .error (.inside .keyNotString (next :: others))
    else .error (.inside .expectedObjectEnd (symbol :: rest))

def colon (input : List Symbol) : Except Fault (List Symbol) :=
  match skipBlanks input with
  | [] => .error (.inside .endInObject [])
  | symbol :: rest =>
    if symbol = .char ':' then .ok rest else .error (.inside .expectedColon (symbol :: rest))

/-- Passes over the closing bracket or brace that comes next. -/
def closing (input : List Symbol) : List Symbol := (skipBlanks input).drop 1

/-- Reads the items of a list up to its closing bracket; `read` are those before, in reverse order,
and there are fewer than `bound` to come. -/
def items (item : Reader Value) (bound : Nat) (read : List Value) (input : List Symbol) :
    Except Fault (List Value × List Symbol) :=
  match bound with
  | 0 => .error (.before .endInList input)
  | bound + 1 =>
    match nextItem? read.isEmpty input with
    | .error fault => .error (fault.within (.index read.length))
    | .ok none => .ok (read.reverse, closing input)
    | .ok (some place) =>
      match item place with
      | .error fault => .error (fault.within (.index read.length))
      | .ok (value, rest) => items item bound (value :: read) rest

/-- Reads the members of an object up to its closing brace; `read` are those before, in reverse
order, and there are fewer than `bound` to come. -/
def members (member : Reader Value) (bound : Nat) (read : List (String × Value))
    (input : List Symbol) : Except Fault (List (String × Value) × List Symbol) :=
  match bound with
  | 0 => .error (.before .endInObject input)
  | bound + 1 =>
    match nextKey? read.isEmpty input with
    | .error fault => .error (fault.within .unknown)
    | .ok none => .ok (read.reverse, closing input)
    | .ok (some (key, rest)) =>
      match colon rest with
      | .error fault => .error (fault.within (.key key))
      | .ok rest =>
        match member rest with
        | .error fault => .error (fault.within (.key key))
        | .ok (value, rest) => members member bound ((key, value) :: read) rest

def listRest (item : Reader Value) : Reader Value := fun input =>
  (items item (input.length + 1) [] input).map fun (read, rest) => (.array read, rest)

/-- Reads an object behind its opening brace; of several members with one key the last counts. -/
def objectRest (member : Reader Value) : Reader Value := fun input =>
  (members member (input.length + 1) [] input).map fun (read, rest) => (.ofEntries read, rest)

/-- Reads a value, with readers for what follows an opening bracket and an opening brace. -/
def valueWith (list object : Reader Value) : Reader Value := fun input =>
  match skipBlanks input with
  | [] => .error (.inside .endInValue [])
  | .stray byte :: rest => .error (.inside .expectedValue (.stray byte :: rest))
  | .char c :: rest =>
    if c = '[' then list rest
    else if c = '\x7b' then object rest
    else if c = '"' then (quotedText rest).map fun (text, rest) => (.string text, rest)
    else if c = '-' || c.isDigit then
      (numeral (.char c :: rest)).map fun (number, rest) => (.number number, rest)
    else if c = 'n' then (word "ull".toList rest).map fun rest => (.null, rest)
    else if c = 't' then (word "rue".toList rest).map fun rest => (.bool true, rest)
    else if c = 'f' then (word "alse".toList rest).map fun rest => (.bool false, rest)
    else .error (.inside .expectedValue (.char c :: rest))

def tooDeep : Reader Value := fun input => .error (.before .tooDeep input)

/-- Reads a value with at most so many brackets open at once. -/
def value : Nat → Reader Value
  | 0 => valueWith tooDeep tooDeep
  | depth + 1 => valueWith (listRest (value depth)) (objectRest (value depth))

/-- How many brackets may be open at once. -/
def deepest : Nat := 127

/-- Nothing but blanks may follow a value. -/
def finish {α : Type} (result : Except Fault (α × List Symbol)) : Except Fault α :=
  match result with
  | .error fault => .error fault
  | .ok (value, rest) =>
    match skipBlanks rest with
    | [] => .ok value
    | symbol :: others => .error (.inside .trailingCharacters (symbol :: others))

/-- The value that the whole of a text writes. -/
def Value.parse (input : List Symbol) : Except Fault Value := finish (value deepest input)

end Dashboard.Json
