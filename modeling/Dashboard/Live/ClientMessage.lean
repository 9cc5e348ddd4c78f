import Dashboard.Json.Decode
import Dashboard.Json.Text

namespace Dashboard.Live

open Json (Value Fault Symbol Reader)
open Schema (Misfit)

/-- A client may ask for a sign of life, under a name of its own. -/
inductive ClientMessage where
  | ping (id : Option String)
deriving DecidableEq, Repr

inductive Reply where
  | pong (id : Option String)
  | refusal (message : String)
deriving DecidableEq, Repr

def Reply.written : Reply → List Char
  | pong id =>
    '\x7b' :: Json.writtenMembers
      (("type", .string "pong") :: (id.map fun id => ("id", Value.string id)).toList)
  | refusal message =>
    '\x7b' :: Json.writtenMembers [("type", .string "error"), ("message", .string message)]

def Reply.text (reply : Reply) : String := String.ofList reply.written

namespace ClientMessage

/-- The members of a message besides its kind: named ones in the order of the text, or items. -/
inductive Content where
  | members (entries : List (String × Value))
  | items (values : List Value)

/-- The name of the member that tells the kind. -/
def tagName : String := "type"

/-- Reads the kind of a message, of which there is one. -/
def tag : Reader Unit := fun input =>
  match Json.textCalled "variant identifier" input with
  | .error fault => .error fault
  | .ok (name, rest) =>
    match Value.choose [("ping", ())] name with
    | .ok kind => .ok (kind, rest)
    | .error reason => .error ((Fault.misfit reason).settle rest)

/-- How many brackets may be open inside a message. -/
def innerDepth : Nat := Json.deepest - 1

/-- Reads the members of a message, of which there are fewer than `bound`. Those `read` are in
reverse order. -/
def readMembers (bound : Nat) (isFirst isTagged : Bool) (read : List (String × Value))
    (input : List Symbol) : Except Fault (Content × List Symbol) :=
  match bound with
  | 0 => .error (.before .endInObject input)
  | bound + 1 =>
    match Json.nextKey? isFirst input with
    | .error fault => .error fault
    | .ok none =>
      if isTagged then .ok (.members read.reverse, Json.closing input)
      else .error (Json.RecordShape.atObjectEnd (.missingField tagName) input)
    | .ok (some (key, rest)) =>
      if key = tagName then
        if isTagged then .error (Json.RecordShape.atObjectEnd (.duplicateField tagName) rest)
        else match Json.colon rest >>= tag with
          | .error fault => .error fault
          | .ok (_, rest) => readMembers bound false true read rest
      else match Json.colon rest >>= Json.value innerDepth with
        | .error fault => .error fault
        | .ok (value, rest) => readMembers bound false isTagged ((key, value) :: read) rest

/-- Reads the items of a message behind its kind, of which there are fewer than `bound`. -/
def readItems (bound : Nat) (read : List Value) (input : List Symbol) :
    Except Fault (Content × List Symbol) :=
  match bound with
  | 0 => .error (.before .endInList input)
  | bound + 1 =>
    match Json.nextItem? false input with
    | .error fault => .error fault
    | .ok none => .ok (.items read.reverse, Json.closing input)
    | .ok (some start) =>
      match Json.value innerDepth start with
      | .error fault => .error fault
      | .ok (value, rest) => readItems bound (value :: read) rest

/-- Reads the items of a message, the first of which is its kind. -/
def readTaggedItems (input : List Symbol) : Except Fault (Content × List Symbol) :=
  match Json.nextItem? true input with
  | .error fault => .error fault
  | .ok none => .error (Json.RecordShape.atListEnd (.missingField tagName) input)
  | .ok (some start) =>
    match tag start with
    | .error fault => .error fault
    | .ok (_, rest) => readItems (input.length + 1) [] rest

/-- Reads a message without looking at the members besides its kind. -/
def readContent : Reader Content := fun input =>
  match Json.skipBlanks input with
  | [] => .error (.inside .endInValue [])
  | symbol :: rest =>
    match Json.opening? symbol with
    | some .object => readMembers (rest.length + 1) true false [] rest
    | some .list => readTaggedItems rest
    | none => .error (Json.mismatch "internally tagged enum ClientMessage" (symbol :: rest))

def pingId (value : Value) : Except Misfit (Option String) := value.asOptional Value.asText

/-- The id among named members; it may be given once. -/
def idAmong : Option (Option String) → List (String × Value) → Except Misfit (Option String)
  | found, [] => .ok (found.getD none)
  | found, (key, value) :: rest =>
    if key = "id" then
      match found with
      | some _ => .error (.duplicateField "id")
      | none =>
        match pingId value with
        | .error reason => .error reason
        | .ok id => idAmong (some id) rest
    else idAmong found rest

def ofContent : Content → Except Misfit ClientMessage
  | .members entries => (idAmong none entries).map .ping
  | .items [] => .ok (.ping none)
  | .items (value :: more) =>
    match pingId value with
    | .error reason => .error reason
    | .ok id =>
      if more.isEmpty then .ok (.ping id)
      else .error (.wrongLength (more.length + 1) "1 element in sequence")

/-- The message that the whole of a text writes. -/
def parse (source : List Symbol) : Except Fault ClientMessage :=
  match readContent source with
  | .error fault => .error fault
  | .ok (content, rest) =>
    match ofContent content with
    | .error reason => .error (.misfit reason)
    | .ok message => Json.finish (.ok (message, rest))

/-- The answer to a text of a client; a refusal gives its reason behind `lead`. -/
def reply (lead : String) (source : String) : Reply :=
  let symbols := Symbol.ofText source
  match parse symbols with
  | .ok (.ping id) => .pong id
  | .error fault => .refusal (lead ++ fault.text symbols)

end ClientMessage
end Dashboard.Live
