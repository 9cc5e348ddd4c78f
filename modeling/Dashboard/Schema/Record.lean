import Dashboard.Schema.Misfit

namespace Dashboard.Schema

/-- A field of a record whose fields are gathered in a `σ` from data of type `ν`. -/
structure Field (ν σ : Type) where
  name : String
  isOptional : Bool
  fill : σ → ν → Except Misfit σ

/-- A record: its name, its fields, and how a value is made of them. -/
structure Record (ν σ α : Type) where
  name : String
  fields : List (Field ν σ)
  empty : σ
  make : σ → Except Misfit α

namespace Record

variable {ν σ α : Type}

/-- The record as items, in the words of a refusal. -/
def asItems (record : Record ν σ α) : String :=
  record.name ++ " with " ++ toString record.fields.length ++
    (if record.fields.length = 1 then " element" else " elements")

def fillEntry (record : Record ν σ α) (gathered : σ) (entry : String × ν) : Except Misfit σ :=
  match record.fields.find? (·.name == entry.1) with
  | some field => field.fill gathered entry.2
  | none => .ok gathered

/-- The record of named entries; the first misfit in their order counts. -/
def ofEntries (record : Record ν σ α) (entries : List (String × ν)) : Except Misfit α :=
  match entries.foldlM record.fillEntry record.empty with
  | .ok gathered => record.make gathered
  | .error reason => .error reason

/-- Fills fields with items, of which `place` came before. -/
def fillItems (record : Record ν σ α) (place : Nat) (gathered : σ) :
    List (Field ν σ) → List ν → Except Misfit σ
  | [], _ => .ok gathered
  | field :: fields, [] =>
    if field.isOptional then record.fillItems (place + 1) gathered fields []
    else .error (.wrongLength place record.asItems)
  | field :: fields, item :: items =>
    match field.fill gathered item with
    | .ok gathered => record.fillItems (place + 1) gathered fields items
    | .error reason => .error reason

/-- The record of items; items beyond the last field are not looked at. -/
def ofItems (record : Record ν σ α) (items : List ν) : Except Misfit α :=
  match record.fillItems 0 record.empty record.fields items with
  | .ok gathered => record.make gathered
  | .error reason => .error reason

end Record
end Dashboard.Schema
