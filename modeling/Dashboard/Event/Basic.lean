import Dashboard.Event.Payload

namespace Dashboard

open Json (Value)

/-- An event; it never changes once it is made. -/
structure Event where
  payload : Event.Payload
  scope : Option String
  /-- Seconds after 1970. -/
  timestamp : Int
deriving Repr

namespace Event

def kind (event : Event) : Kind := event.payload.kind

def heading (event : Event) : List Char :=
  "\"type\":".toList ++ Json.quoted event.kind.code ++
    match event.scope with
    | some scope => ",\"widget_id\":".toList ++ Json.quoted scope
    | none => []

def written (event : Event) : List Char :=
  '\x7b' :: event.heading ++ ",\"data\":".toList ++ event.payload.written ++
    ",\"timestamp\":".toList ++ (toString event.timestamp).toList ++ ['\x7d']

def text (event : Event) : String := String.ofList event.written

/-- The members of a wire form seen so far. -/
structure WireParts where
  kind : Option String
  scope : Option (Option String)
  data : Option Value
  timestamp : Option Int

/-- The wire form as it is read, before its data is checked against its kind. -/
structure Wire where
  kind : String
  scope : Option String
  data : Value
  timestamp : Int

/-- How many brackets may be open inside a record. -/
def innerDepth : Nat := Json.deepest - 1

/-- The members of a wire form. A scope and data may be left out. -/
def wireShape : Json.RecordShape WireParts Wire where
  name := "struct EventWire"
  slots := [
    ⟨"type", (·.kind.isSome), fun parts input =>
      (Json.text input).map fun (kind, rest) => ({ parts with kind := some kind }, rest), false⟩,
    ⟨"widget_id", (·.scope.isSome), fun parts input =>
      (Json.optional Json.text input).map fun (scope, rest) =>
        ({ parts with scope := some scope }, rest), true⟩,
    ⟨"data", (·.data.isSome), fun parts input =>
      (Json.value innerDepth input).map fun (data, rest) =>
        ({ parts with data := some data }, rest), true⟩,
    ⟨"timestamp", (·.timestamp.isSome), fun parts input =>
      (Json.integer Schema.IntegerKind.signed64 input).map fun (timestamp, rest) =>
        ({ parts with timestamp := some timestamp }, rest), false⟩]
  empty := ⟨none, none, none, none⟩
  make
    | ⟨none, _, _, _⟩ => .error (.missingField "type")
    | ⟨some _, _, _, none⟩ => .error (.missingField "timestamp")
    | ⟨some kind, scope, data, some timestamp⟩ =>
      .ok ⟨kind, scope.getD none, data.getD .null, timestamp⟩

inductive ParseError where
  | fault (reason : Json.Fault)
  | payload (error : PayloadError)
deriving Repr

def ParseError.category : ParseError → Json.Category
  | .fault reason => reason.cause.category
  | .payload _ => .misshapen

def ParseError.text (source : List Json.Symbol) : ParseError → String
  | .fault reason => reason.text source
  | .payload error => error.text

/-- Checks the data of a wire form against its kind. -/
def ofWire (wire : Wire) : Except PayloadError Event :=
  (Payload.ofCode wire.kind wire.data).map fun payload => ⟨payload, wire.scope, wire.timestamp⟩

/-- The event that the whole of a text writes. -/
def parse (source : List Json.Symbol) : Except ParseError Event :=
  match wireShape.read source with
  | .error fault => .error (.fault fault)
  | .ok (wire, rest) =>
    match ofWire wire with
    | .error error => .error (.payload error)
    | .ok event => (Json.finish (.ok (event, rest))).mapError .fault

end Event
end Dashboard
