import Dashboard.Json.Reader

namespace Dashboard.Json

inductive Bracket where
  | list
  | object
deriving DecidableEq, Repr

namespace Bracket

def close : Bracket → Char
  | list => ']'
  | object => '\x7d'

def endsEarly : Bracket → Cause
  | list => .endInList
  | object => .endInObject

def expectsEnd : Bracket → Cause
  | list => .expectedListEnd
  | object => .expectedObjectEnd

end Bracket

def skipScalar (input : List Symbol) : Except Fault (List Symbol) :=
  match input with
  | .char c :: rest =>
    if c = '"' then skipQuoted rest
    else if c = '-' then skipMagnitude rest
    else if c.isDigit then skipMagnitude input
    else if c = 'n' then word "ull".toList rest
    else if c = 't' then word "rue".toList rest
    else if c = 'f' then word "alse".toList rest
    else .error (.inside .expectedValue input)
  | _ => .error (.inside .expectedValue input)

/-- Passes over the key and the colon in front of a member. -/
def skipKey (input : List Symbol) : Except Fault (List Symbol) :=
  match skipBlanks input with
  | [] => .error (.inside .endInObject [])
  | symbol :: rest =>
    if symbol = .char '"' then
      match skipQuoted rest with
      | .error fault => .error fault
      | .ok rest => colon rest
    else .error (.inside .keyNotString (symbol :: rest))

/-- Passes over what must come before the next value inside a bracket. -/
def skipToValue (bracket : Bracket) (input : List Symbol) : Except Fault (List Symbol) :=
  match bracket with
  | .list => .ok input
  | .object => skipKey input

/-- Closes brackets, innermost first, and answers what follows with those that stay open. Behind a
value only a comma keeps a bracket open. -/
def closeBrackets (behindValue : Bool) (input : List Symbol) :
    List Bracket → Except Fault (List Bracket × List Symbol)
  | [] => .ok ([], input)
  | bracket :: outer =>
    match skipBlanks input with
    | [] => .error (.inside bracket.endsEarly [])
    | symbol :: rest =>
      if behindValue && symbol = .char ',' then .ok (bracket :: outer, rest)
      else if symbol = .char bracket.close then closeBrackets true rest outer
      else if behindValue then .error (.inside bracket.expectsEnd (symbol :: rest))
      else .ok (bracket :: outer, symbol :: rest)

def opening? (symbol : Symbol) : Option Bracket :=
  if symbol = .char '[' then some .list
  else if symbol = .char '\x7b' then some .object
  else none

/-- Passes over values until no bracket is open, in less than `bound` steps. -/
def skipWithin (bound : Nat) (brackets : List Bracket) (input : List Symbol) :
    Except Fault (List Symbol) :=
  match bound with
  | 0 => .error (.before .endInValue input)
  | bound + 1 =>
    match skipBlanks input with
    | [] => .error (.inside .endInValue [])
    | symbol :: rest =>
      let step : Except Fault (List Bracket × List Symbol) :=
        match opening? symbol with
        | some bracket => closeBrackets false rest (bracket :: brackets)
        | none =>
          match skipScalar (symbol :: rest) with
          | .error fault => .error fault
          | .ok rest => closeBrackets true rest brackets
      match step with
      | .error fault => .error fault
      | .ok ([], rest) => .ok rest
      | .ok (bracket :: outer, rest) =>
        match skipToValue bracket rest with
        | .error fault => .error fault
        | .ok rest => skipWithin bound (bracket :: outer) rest

def skipValue (input : List Symbol) : Except Fault (List Symbol) :=
  skipWithin (input.length + 1) [] input

end Dashboard.Json
