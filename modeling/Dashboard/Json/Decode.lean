import Dashboard.Json.Record
import Dashboard.Schema.Record

namespace Dashboard.Json.Value

open Schema (Misfit)

def asText : Value → Except Misfit String
  | .string text => .ok text
  | value => .error (.wrongType value.found "a string")

def asOptional {α : Type} (decode : Value → Except Misfit α) : Value → Except Misfit (Option α)
  | .null => .ok none
  | value => (decode value).map some

def choose {α : Type} (variants : List (String × α)) (name : String) : Except Misfit α :=
  match variants.lookup name with
  | some variant => .ok variant
  | none => .error (.unknownVariant name (variants.map Prod.fst))

/-- An alternative, given by its name or as an object with its name over `null`. -/
def asVariant {α : Type} (variants : List (String × α)) : Value → Except Misfit α
  | .string name => choose variants name
  | .object [(name, content)] =>
    match choose variants name with
    | .error reason => .error reason
    | .ok variant =>
      match content with
      | .null => .ok variant
      | other => .error (.wrongType other.found "unit")
  | .object _ => .error (.wrongValue .map "map with a single key")
  | value => .error (.wrongType value.found "string or map")

/-- A record, given as an object or as the list of exactly its fields. -/
def asRecord {σ α : Type} (record : Schema.Record Value σ α) : Value → Except Misfit α
  | .object members => record.ofEntries members
  | .array items =>
    match record.ofItems items with
    | .error reason => .error reason
    | .ok value =>
      if items.length ≤ record.fields.length then .ok value
      else .error (.wrongLength items.length "fewer elements in array")
  | value => .error (.wrongType value.found record.name)

end Dashboard.Json.Value
