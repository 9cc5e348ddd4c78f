import Dashboard.Json.Record
import Dashboard.Text.Blank

namespace Dashboard.Web

open Json (Value)

/-- Data to be stored under a key, perhaps for another time than usual. -/
structure WidgetData where
  key : String
  value : Value
  ttlSeconds : Option Nat
deriving Repr

namespace WidgetData

structure Parts where
  key : Option String
  value : Option Value
  ttl : Option (Option Int)

/-- How many brackets may be open inside a body. -/
def innerDepth : Nat := Json.deepest - 1

/-- The members of a body. The time to live may be left out. -/
def shape : Json.RecordShape Parts WidgetData where
  name := "struct SaveWidgetData"
  slots := [
    ⟨"key", (·.key.isSome), fun parts input =>
      (Json.text input).map fun (key, rest) => ({ parts with key := some key }, rest), false⟩,
    ⟨"value", (·.value.isSome), fun parts input =>
      (Json.value innerDepth input).map fun (value, rest) =>
        ({ parts with value := some value }, rest), false⟩,
    ⟨"ttl_secs", (·.ttl.isSome), fun parts input =>
      (Json.optional (Json.integer Schema.IntegerKind.unsigned64) input).map fun (ttl, rest) =>
        ({ parts with ttl := some ttl }, rest), true⟩]
  empty := ⟨none, none, none⟩
  make
    | ⟨none, _, _⟩ => .error (.missingField "key")
    | ⟨some _, none, _⟩ => .error (.missingField "value")
    | ⟨some key, some value, ttl⟩ => .ok ⟨key, value, (ttl.getD none).map Int.toNat⟩

/-- The data at the start of a body. What follows it is not looked at. -/
def parse (source : List Json.Symbol) : Except Json.Fault WidgetData :=
  (shape.read source).map Prod.fst

/-- A key of blanks alone is no key. -/
def hasKey (data : WidgetData) : Bool := !(Text.trim data.key.toList).isEmpty

end WidgetData
end Dashboard.Web
