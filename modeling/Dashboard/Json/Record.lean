import Dashboard.Json.Skip

namespace Dashboard.Json

/-- What a value is called where another kind of value was expected. -/
def Value.found : Value → Schema.Found
  | .null => .null
  | .bool value => .bool value
  | .number (.integer value) => .integer value
  | .number (.float value) => .float value
  | .string text => .string text
  | .array _ => .sequence
  | .object _ => .map

/-- The fault that the next value, whatever it is, is not what was expected. Brackets are not
looked into. -/
def mismatch (expected : String) (input : List Symbol) : Fault :=
  let input := skipBlanks input
  match input.head?.bind opening? with
  | some .list => (Fault.misfit (.wrongType .sequence expected)).settle input
  | some .object => (Fault.misfit (.wrongType .map expected)).settle input
  | none =>
    match value 0 input with
    | .error fault => fault
    | .ok (value, rest) => (Fault.misfit (.wrongType value.found expected)).settle rest

/-- Reads a text, which is called `expected` when it is something else. -/
def textCalled (expected : String) : Reader String := fun input =>
  match skipBlanks input with
  | .char c :: rest => if c = '"' then quotedText rest else .error (mismatch expected input)
  | _ => .error (mismatch expected input)

def text : Reader String := textCalled "a string"

def integer (kind : Schema.IntegerKind) : Reader Int := fun input =>
  match skipBlanks input with
  | .char c :: rest =>
    if c = '-' || c.isDigit then
      match numeral (.char c :: rest) with
      | .error fault => .error fault
      | .ok (.integer value, rest) =>
        match kind.check value with
        | .ok value => .ok (value, rest)
        | .error reason => .error ((Fault.misfit reason).settle rest)
      | .ok (.float value, rest) =>
        .error ((Fault.misfit (.wrongType (.float value) kind.name)).settle rest)
    else .error (mismatch kind.name input)
  | _ => .error (mismatch kind.name input)

def optional {α : Type} (reader : Reader α) : Reader (Option α) := fun input =>
  match skipBlanks input with
  | .char 'n' :: rest => (word "ull".toList rest).map fun rest => (none, rest)
  | _ => (reader input).map fun (value, rest) => (some value, rest)

/-- A field of a record whose fields are gathered in a `σ`. -/
structure Slot (σ : Type) where
  name : String
  isFilled : σ → Bool
  /-- Reads the value of the field and adds it to what is gathered. -/
  fill : σ → Reader σ
  isOptional : Bool

/-- A record: its name, its fields, and how a value is made of them. -/
structure RecordShape (σ α : Type) where
  name : String
  slots : List (Slot σ)
  empty : σ
  make : σ → Except Schema.Misfit α

namespace RecordShape

variable {σ α : Type}

/-- The record as a list, in the words of a refusal. -/
def asList (shape : RecordShape σ α) : String :=
  shape.name ++ " with " ++ toString shape.slots.length ++
    (if shape.slots.length = 1 then " element" else " elements")

/-- A misfit inside an object has its place behind the closing brace, if that comes next. -/
def atObjectEnd (reason : Schema.Misfit) (input : List Symbol) : Fault :=
  match skipBlanks input with
  | symbol :: rest =>
    if symbol = .char '\x7d' then (Fault.misfit reason).settle rest
    else (Fault.misfit reason).settle (symbol :: rest)
  | [] => (Fault.misfit reason).settle []

/-- A misfit inside a list has its place behind the closing bracket, or behind the comma, that comes
next. -/
def atListEnd (reason : Schema.Misfit) (input : List Symbol) : Fault :=
  match skipBlanks input with
  | symbol :: rest =>
    if symbol = .char ']' then (Fault.misfit reason).settle rest
    else if symbol = .char ',' then (Fault.misfit reason).settle (skipBlanks rest)
    else (Fault.misfit reason).settle (symbol :: rest)
  | [] => (Fault.misfit reason).settle []

/-- Passes over the end of a list whose last field has been read. -/
def endOfList (input : List Symbol) : Except Fault (List Symbol) :=
  match skipBlanks input with
  | [] => .error (.inside .endInList [])
  | symbol :: rest =>
    if symbol = .char ']' then .ok rest
    else if symbol = .char ',' then
      match skipBlanks rest with
      | .char ']' :: others => .error (.inside .trailingComma (.char ']' :: others))
      | rest => .error (.inside .trailingCharacters rest)
    else .error (.inside .trailingCharacters (symbol :: rest))

def close (shape : RecordShape σ α) (atEnd : Schema.Misfit → List Symbol → Fault) (gathered : σ)
    (input : List Symbol) : Except Fault α :=
  match shape.make gathered with
  | .ok record => .ok record
  | .error reason => .error (atEnd reason input)

/-- Reads the members of an object, of which there are fewer than `bound`. -/
def objectFields (shape : RecordShape σ α) (bound : Nat) (isFirst : Bool) (gathered : σ)
    (input : List Symbol) : Except Fault (σ × List Symbol) :=
  match bound with
  | 0 => .error (.before .endInObject input)
  | bound + 1 =>
    match nextKey? isFirst input with
    | .error fault => .error (fault.within .unknown)
    | .ok none => .ok (gathered, input)
    | .ok (some (key, rest)) =>
      match shape.slots.find? (·.name == key) with
      | none =>
        match colon rest >>= skipValue with
        | .error fault => .error (fault.within (.key key))
        | .ok rest => shape.objectFields bound false gathered rest
      | some slot =>
        if slot.isFilled gathered then .error (atObjectEnd (.duplicateField key) rest)
        else match colon rest >>= slot.fill gathered with
          | .error fault => .error (fault.within (.key key))
          | .ok (gathered, rest) => shape.objectFields bound false gathered rest

/-- Reads the items of a list into the given fields; `place` fields come before them. -/
def listFields (shape : RecordShape σ α) (place : Nat) (gathered : σ) (input : List Symbol) :
    List (Slot σ) → Except Fault (σ × List Symbol)
  | [] => .ok (gathered, input)
  | slot :: slots =>
    match nextItem? (place == 0) input with
    | .error fault => .error (fault.within (.index place))
    | .ok none =>
      if slot.isOptional then shape.listFields (place + 1) gathered input slots
      else .error (atListEnd (.wrongLength place shape.asList) input)
    | .ok (some start) =>
      match slot.fill gathered start with
      | .error fault => .error (fault.within (.index place))
      | .ok (gathered, rest) => shape.listFields (place + 1) gathered rest slots

def objectRest (shape : RecordShape σ α) : Reader α := fun input =>
  match shape.objectFields (input.length + 1) true shape.empty input with
  | .error fault => .error fault
  | .ok (gathered, rest) =>
    (shape.close atObjectEnd gathered rest).map fun record => (record, closing rest)

def listRest (shape : RecordShape σ α) : Reader α := fun input =>
  match shape.listFields 0 shape.empty input shape.slots with
  | .error fault => .error fault
  | .ok (gathered, rest) =>
    match shape.close atListEnd gathered rest with
    | .error fault => .error fault
    | .ok record => (endOfList rest).map fun rest => (record, rest)

def read (shape : RecordShape σ α) : Reader α := fun input =>
  match skipBlanks input with
  | [] => .error (.inside .endInValue [])
  | symbol :: rest =>
    match opening? symbol with
    | some .object => shape.objectRest rest
    | some .list => shape.listRest rest
    | none => .error (mismatch shape.name (symbol :: rest))

end RecordShape
end Dashboard.Json
