import Dashboard.Event.Kind
import Dashboard.Json.Decode
import Dashboard.Json.Text

namespace Dashboard.Event

open Json (Value)
open Schema (Misfit)

inductive ChangeAction where
  | created
  | updated
  | deleted
deriving DecidableEq, Repr

inductive NoticeLevel where
  | info
  | warning
  | error
deriving DecidableEq, Repr

def ChangeAction.name : ChangeAction → String
  | created => "created"
  | updated => "updated"
  | deleted => "deleted"

def NoticeLevel.name : NoticeLevel → String
  | info => "info"
  | warning => "warning"
  | error => "error"

def ChangeAction.variants : List (String × ChangeAction) :=
  [("created", .created), ("updated", .updated), ("deleted", .deleted)]

def NoticeLevel.variants : List (String × NoticeLevel) :=
  [("info", .info), ("warning", .warning), ("error", .error)]

/-- The payload of an event, by kind: fresh content of a widget, a widget that failed to refresh,
a change of stored data, or a notice for the user. -/
inductive Payload where
  | update (content : Value)
  | failure (message : String)
  | change (entity : String) (action : ChangeAction) (id : Option String)
  | notice (level : NoticeLevel) (message : String)
deriving Repr

namespace Payload

def kind : Payload → Kind
  | update _ => .update
  | failure _ => .error
  | change .. => .dataChanged
  | notice .. => .notification

def failureRecord : Schema.Record Value (Option String) Payload where
  name := "struct WidgetFailure"
  fields := [⟨"message", false, fun _ value => value.asText.map some⟩]
  empty := none
  make
    | some message => .ok (.failure message)
    | none => .error (.missingField "message")

structure ChangeParts where
  entity : Option String
  action : Option ChangeAction
  id : Option String

def changeRecord : Schema.Record Value ChangeParts Payload where
  name := "struct DataChange"
  fields := [
    ⟨"entity", false, fun parts value =>
      value.asText.map fun entity => { parts with entity := some entity }⟩,
    ⟨"action", false, fun parts value =>
      (value.asVariant ChangeAction.variants).map fun action =>
        { parts with action := some action }⟩,
    ⟨"id", true, fun parts value =>
      (value.asOptional Value.asText).map fun id => { parts with id := id }⟩]
  empty := ⟨none, none, none⟩
  make
    | ⟨none, _, _⟩ => .error (.missingField "entity")
    | ⟨some _, none, _⟩ => .error (.missingField "action")
    | ⟨some entity, some action, id⟩ => .ok (.change entity action id)

structure NoticeParts where
  level : Option NoticeLevel
  message : Option String

def noticeRecord : Schema.Record Value NoticeParts Payload where
  name := "struct Notification"
  fields := [
    ⟨"level", false, fun parts value =>
      (value.asVariant NoticeLevel.variants).map fun level => { parts with level := some level }⟩,
    ⟨"message", false, fun parts value =>
      value.asText.map fun message => { parts with message := some message }⟩]
  empty := ⟨none, none⟩
  make
    | ⟨none, _⟩ => .error (.missingField "level")
    | ⟨some _, none⟩ => .error (.missingField "message")
    | ⟨some level, some message⟩ => .ok (.notice level message)

/-- The payload of a kind that untyped data writes. -/
def ofData (kind : Kind) (data : Value) : Except Misfit Payload :=
  match kind with
  | .update => .ok (.update data)
  | .error => data.asRecord failureRecord
  | .dataChanged => data.asRecord changeRecord
  | .notification => data.asRecord noticeRecord

/-- The fields of a payload with a schema, in the order of the schema; a missing id is left out. -/
def fields : Payload → List (String × Value)
  | update _ => []
  | failure message => [("message", .string message)]
  | change entity action id =>
    [("entity", .string entity), ("action", .string action.name)] ++
      (id.map fun id => ("id", Value.string id)).toList
  | notice level message => [("level", .string level.name), ("message", .string message)]

def data (payload : Payload) : Value :=
  match payload with
  | update content => content
  | typed => .ofEntries typed.fields

/-- The text of the payload's data; fields stand in the order of the schema. -/
def written (payload : Payload) : List Char :=
  match payload with
  | update content => content.written
  | typed => '\x7b' :: Json.writtenMembers typed.fields

end Payload

inductive PayloadError where
  | unknownKind (code : String)
  | mismatch (kind : Kind) (reason : Misfit)
  /-- The data has no JSON form, because the keys of a map are no texts. -/
  | keysNotText
deriving Repr

def PayloadError.text : PayloadError → String
  | unknownKind code => "unknown event kind '" ++ code ++ "'"
  | mismatch kind reason =>
    "payload does not match kind '" ++ kind.code ++ "': " ++ reason.text Decimal.Style.json
  | keysNotText => "payload is not serializable: " ++ Json.Cause.keyNotString.text

/-- The payload that a code and untyped data write. -/
def Payload.ofCode (code : String) (data : Value) : Except PayloadError Payload :=
  match Kind.ofCode? code with
  | none => .error (.unknownKind code)
  | some kind => (Payload.ofData kind data).mapError (.mismatch kind)

end Dashboard.Event
