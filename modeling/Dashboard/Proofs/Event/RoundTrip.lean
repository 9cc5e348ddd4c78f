import Dashboard.Event.Basic
import Dashboard.Proofs.Json.RoundTrip

/-! The wire form of an event is read back as that event. The writer puts the members one after another
and leaves out a scope and an id that are not there; the reader takes members in any order, supplies
what was left out and checks the data against the kind. -/

namespace Dashboard

open Json (Fault ReadsWithin quoted endsNumber)
open Json.Symbol (ofChars)

namespace Json.RecordShape

variable {σ α : Type} (shape : RecordShape σ α)

theorem objectFields_nil (bound : Nat) (isFirst : Bool) (gathered : σ) (rest : List Json.Symbol) :
    shape.objectFields (bound + 1) isFirst gathered (.char '\x7d' :: rest) =
      .ok (gathered, .char '\x7d' :: rest) := by
  rw [objectFields, nextKey?_nil]

/-- One member of a record, behind the text that names it, and the others behind that. -/
theorem objectFields_cons (bound : Nat) (isFirst : Bool) (gathered : σ) {front : List Char}
    {key : String} {slot : Slot σ}
    (names : front = (if isFirst then [] else [',']) ++ quoted key ++ [':'])
    (found : shape.slots.find? (·.name == key) = some slot)
    (unfilled : slot.isFilled gathered = false) (chars : List Char) (rest : List Json.Symbol) :
    shape.objectFields (bound + 1) isFirst gathered (ofChars (front ++ chars) ++ rest) =
      ((slot.fill gathered (ofChars chars ++ rest)).mapError (Fault.within (.key key))).bind
        fun read => shape.objectFields bound false read.1 read.2 := by
  have split : ofChars (front ++ chars) ++ rest =
      ofChars ((if isFirst then [] else [',']) ++ quoted key) ++ .char ':' ::
        (ofChars chars ++ rest) := by
    simp [names]
  rw [split, objectFields, nextKey?_quoted]
  simp only [found, unfilled, colon_char]
  cases outcome : slot.fill gathered (ofChars chars ++ rest) with
  | error fault => simp [outcome, Except.mapError, Except.bind, bind]
  | ok read => simp [outcome, Except.mapError, Except.bind, bind]

end Json.RecordShape

namespace Json

theorem text_quoted (text : String) (rest : List Json.Symbol) :
    Json.text (ofChars (quoted text) ++ rest) = .ok (text, rest) := by
  have read := quotedText_quoted text rest
  rw [ofChars_quoted, List.cons_append]
  simp [Json.text, textCalled, skipBlanks_cons, isSpace, read]

theorem optional_text_quoted (text : String) (rest : List Json.Symbol) :
    Json.optional Json.text (ofChars (quoted text) ++ rest) = .ok (some text, rest) := by
  have read := text_quoted text rest
  rw [ofChars_quoted, List.cons_append] at read ⊢
  simp [optional, skipBlanks_cons, isSpace, read, Except.map]

theorem integer_text {kind : Schema.IntegerKind} {number : Int} (whole : IsWhole number)
    (fits : kind.least ≤ number ∧ number ≤ kind.greatest) {rest : List Json.Symbol}
    (ends : endsNumber rest = true) :
    integer kind (ofChars (Number.integer number).text ++ rest) = .ok (number, rest) := by
  obtain ⟨c, more, written, starts⟩ := text_integer_eq_cons number
  have read := numeral_integer whole ends
  rw [written, Json.Symbol.ofChars_cons, List.cons_append] at read ⊢
  have isNumber : c = '-' ∨ c.isDigit = true := by simpa [startsNumber] using starts
  simp [integer, skipBlanks_cons (isSpace_of_startsNumber starts), isNumber, read,
    Schema.IntegerKind.check, fits]

end Json

namespace Event

/-- How many brackets are open at once, at most, in the data of a payload. -/
def Payload.depth : Payload → Nat
  | update content => content.depth
  | failure _ | change .. | notice .. => 1

/-- The payloads that their text keeps exactly: all of them, but for updates with values of which the
same is not true. -/
def Payload.IsExact (payload : Payload) : Prop :=
  ∀ content, payload = update content → content.IsExact

theorem ChangeAction.asVariant_name (action : ChangeAction) :
    (Json.Value.string action.name).asVariant variants = .ok action := by
  cases action <;> rfl

theorem NoticeLevel.asVariant_name (level : NoticeLevel) :
    (Json.Value.string level.name).asVariant variants = .ok level := by
  cases level <;> rfl

namespace Payload

/-- As untyped data, the fields of a change are in the order of their names. -/
theorem data_change (entity : String) (action : ChangeAction) (id : Option String) :
    (change entity action id).data =
      .object ([("action", .string action.name), ("entity", .string entity)] ++
        (id.map fun id => ("id", Json.Value.string id)).toList) := by
  have swapped : Json.Members.ofList [("entity", .string entity), ("action", .string action.name)] =
      [("action", .string action.name), ("entity", .string entity)] := by
    have different : "action" ≠ "entity" := by decide
    have before : "action" < "entity" := by decide
    rw [Json.Members.ofList, List.foldl_cons, List.foldl_cons, List.foldl_nil, Json.Members.insert,
      Json.Members.insert, if_neg different, if_pos before]
  cases id with
  | none => exact congrArg Json.Value.object swapped
  | some id =>
    have below : ∀ member ∈ [("action", Json.Value.string action.name), ("entity", .string entity)],
        member.1 < "id" := by
      have names : ∀ name ∈ ["action", "entity"], name < "id" := by decide
      exact fun member present => names member.1 (List.mem_map_of_mem present)
    have appended := Json.Members.insert_of_forall_lt _ (Json.Value.string id) below
    have gathered := congrArg (Json.Members.insert "id" (.string id)) swapped
    exact congrArg Json.Value.object (gathered.trans appended)

/-- The data of a change is read as that change, with an id or without one. -/
theorem asRecord_change (entity : String) (action : ChangeAction) (id : Option String) :
    (change entity action id).data.asRecord changeRecord = .ok (change entity action id) := by
  have named := action.asVariant_name
  rw [data_change, Json.Value.asRecord, Schema.Record.ofEntries]
  cases id with
  | none =>
    simp [Schema.Record.fillEntry, changeRecord, named, Json.Value.asText, Except.map, bind,
      Except.bind, pure, Except.pure]
  | some id =>
    simp [Schema.Record.fillEntry, changeRecord, named, Json.Value.asText, Json.Value.asOptional,
      Except.map, bind, Except.bind, pure, Except.pure]

theorem data_notice (level : NoticeLevel) (message : String) :
    (notice level message).data =
      .object [("level", .string level.name), ("message", .string message)] := by
  have ascending : ["level", "message"].Pairwise (· < ·) := by decide
  exact congrArg Json.Value.object (Json.Members.ofList_of_ordered ascending)

theorem asRecord_notice (level : NoticeLevel) (message : String) :
    (notice level message).data.asRecord noticeRecord = .ok (notice level message) := by
  have named := level.asVariant_name
  rw [data_notice, Json.Value.asRecord, Schema.Record.ofEntries]
  simp [Schema.Record.fillEntry, noticeRecord, named, Json.Value.asText, Except.map, bind,
    Except.bind, pure, Except.pure]

/-- The data of a payload is read as that payload. -/
theorem ofData_data (payload : Payload) : ofData payload.kind payload.data = .ok payload := by
  cases payload with
  | update content => rfl
  | failure message => rfl
  | change entity action id => exact asRecord_change entity action id
  | notice level message => exact asRecord_notice level message

/-- Under the code of its kind, the data of a payload is taken for that payload. -/
theorem ofCode_data (payload : Payload) : ofCode payload.kind.code payload.data = .ok payload := by
  rw [ofCode, Kind.ofCode?_code]
  simp only [ofData_data]
  rfl

theorem fields_texts (payload : Payload) {member : String × Json.Value}
    (present : member ∈ payload.fields) : ∃ text, member.2 = .string text := by
  cases payload with
  | update content => cases present
  | failure message =>
    obtain rfl := List.mem_singleton.mp present
    exact ⟨_, rfl⟩
  | change entity action id =>
    simp only [fields, List.cons_append, List.nil_append, List.mem_cons, Option.mem_toList,
      Option.map_eq_some_iff] at present
    rcases present with rfl | rfl | ⟨id, -, rfl⟩
    · exact ⟨_, rfl⟩
    · exact ⟨_, rfl⟩
    · exact ⟨_, rfl⟩
  | notice level message =>
    simp only [fields, List.mem_cons, List.not_mem_nil, or_false] at present
    rcases present with rfl | rfl
    · exact ⟨_, rfl⟩
    · exact ⟨_, rfl⟩

/-- Fields that are texts are read back, in the order in which they stand. -/
theorem readsBack_fields (payload : Payload) (limit : Nat) (rest : List Json.Symbol) :
    ReadsWithin limit 1
      (Json.value limit (ofChars ('\x7b' :: Json.writtenMembers payload.fields) ++ rest))
      (.ofEntries payload.fields, rest) := by
  have flat : Json.membersDepth payload.fields = 0 := by
    refine Json.membersDepth_eq_zero fun member present => ?_
    obtain ⟨text, same⟩ := payload.fields_texts present
    rw [same]
    rfl
  have readsBack : ∀ member ∈ payload.fields, ∀ limit,
      Json.ReadsBack (Json.value limit) limit member.2 := by
    intro member present limit
    obtain ⟨text, same⟩ := payload.fields_texts present
    rw [same]
    exact (Json.Value.IsExact.string text).readsBack limit
  have read := Json.value_writtenMembers readsBack limit rest
  rwa [flat] at read

theorem IsExact.readsBack {payload : Payload} (exact : payload.IsExact) (limit : Nat)
    (rest : List Json.Symbol) (ends : endsNumber rest = true) :
    ReadsWithin limit payload.depth (Json.value limit (ofChars payload.written ++ rest))
      (payload.data, rest) := by
  cases payload with
  | update content => exact (exact content rfl).readsBack limit rest ends
  | failure message => exact readsBack_fields (.failure message) limit rest
  | change entity action id => exact readsBack_fields (.change entity action id) limit rest
  | notice level message => exact readsBack_fields (.notice level message) limit rest

end Payload

theorem objectFields_type (bound : Nat) (code : String) (rest : List Json.Symbol) :
    wireShape.objectFields (bound + 1) true wireShape.empty
        (ofChars ("\"type\":".toList ++ quoted code) ++ rest) =
      wireShape.objectFields bound false ⟨some code, none, none, none⟩ rest := by
  have names : "\"type\":".toList = quoted "type" ++ [':'] := by decide
  have found : wireShape.slots.find? (·.name == "type") = some _ := rfl
  refine (wireShape.objectFields_cons bound true wireShape.empty names found rfl _ rest).trans ?_
  simp only [Json.text_quoted]
  rfl

theorem objectFields_scope (bound : Nat) {parts : WireParts} (unfilled : parts.scope = none)
    (scope : String) (rest : List Json.Symbol) :
    wireShape.objectFields (bound + 1) false parts
        (ofChars (",\"widget_id\":".toList ++ quoted scope) ++ rest) =
      wireShape.objectFields bound false { parts with scope := some (some scope) } rest := by
  have names : ",\"widget_id\":".toList = [','] ++ quoted "widget_id" ++ [':'] := by decide
  have found : wireShape.slots.find? (·.name == "widget_id") = some _ := rfl
  refine (wireShape.objectFields_cons bound false parts names found (by simp [unfilled]) _ rest).trans
    ?_
  simp only [Json.optional_text_quoted]
  rfl

theorem objectFields_data (bound : Nat) {parts : WireParts} (unfilled : parts.data = none)
    (chars : List Char) (rest : List Json.Symbol) :
    wireShape.objectFields (bound + 1) false parts
        (ofChars (",\"data\":".toList ++ chars) ++ rest) =
      ((Json.value innerDepth (ofChars chars ++ rest)).mapError (Fault.within (.key "data"))).bind
        fun read => wireShape.objectFields bound false { parts with data := some read.1 } read.2 := by
  have names : ",\"data\":".toList = [','] ++ quoted "data" ++ [':'] := by decide
  have found : wireShape.slots.find? (·.name == "data") = some _ := rfl
  refine (wireShape.objectFields_cons bound false parts names found (by simp [unfilled]) _ rest).trans
    ?_
  dsimp only
  cases Json.value innerDepth (ofChars chars ++ rest) with
  | error fault => rfl
  | ok read => rfl

theorem objectFields_timestamp (bound : Nat) {parts : WireParts} (unfilled : parts.timestamp = none)
    {timestamp : Int} (fits : Schema.IntegerKind.signed64.least ≤ timestamp ∧
      timestamp ≤ Schema.IntegerKind.signed64.greatest) {rest : List Json.Symbol}
    (ends : endsNumber rest = true) :
    wireShape.objectFields (bound + 1) false parts
        (ofChars (",\"timestamp\":".toList ++ (toString timestamp).toList) ++ rest) =
      wireShape.objectFields bound false { parts with timestamp := some timestamp } rest := by
  have names : ",\"timestamp\":".toList = [','] ++ quoted "timestamp" ++ [':'] := by decide
  have found : wireShape.slots.find? (·.name == "timestamp") = some _ := rfl
  have whole : Json.IsWhole timestamp := by
    simp only [Schema.IntegerKind.signed64] at fits
    constructor <;> omega
  have read := Json.integer_text whole fits ends
  rw [Json.Number.text] at read
  refine (wireShape.objectFields_cons bound false parts names found (by simp [unfilled]) _ rest).trans
    ?_
  simp only [read]
  rfl

/-- How many brackets are open at once, at most, in the wire form. -/
def depth (event : Event) : Nat := event.payload.depth + 1

/-- The events that their wire form keeps exactly. -/
structure IsExact (event : Event) : Prop where
  payload : event.payload.IsExact
  timestamp : Schema.IntegerKind.signed64.least ≤ event.timestamp ∧
    event.timestamp ≤ Schema.IntegerKind.signed64.greatest

theorem objectFields_heading (event : Event) (bound : Nat) (rest : List Json.Symbol) :
    ∃ left, bound ≤ left ∧
      wireShape.objectFields (bound + 2) true wireShape.empty (ofChars event.heading ++ rest) =
        wireShape.objectFields left false
          ⟨some event.kind.code, event.scope.map some, none, none⟩ rest := by
  cases scope : event.scope with
  | none =>
    refine ⟨bound + 1, Nat.le_succ bound, ?_⟩
    unfold heading
    rw [scope, List.append_nil, Option.map_none]
    exact objectFields_type (bound + 1) event.kind.code rest
  | some name =>
    refine ⟨bound, Nat.le_refl bound, ?_⟩
    have split : ofChars event.heading ++ rest =
        ofChars ("\"type\":".toList ++ quoted event.kind.code) ++
          (ofChars (",\"widget_id\":".toList ++ quoted name) ++ rest) := by
      unfold heading
      rw [scope, Json.Symbol.ofChars_append, List.append_assoc]
    rw [split, objectFields_type, objectFields_scope bound rfl, Option.map_some]

/-- What the wire form says before it is checked. -/
def wire (event : Event) : Wire :=
  ⟨event.kind.code, event.scope, event.payload.data, event.timestamp⟩

theorem close_gathered (event : Event) (rest : List Json.Symbol) :
    wireShape.close Json.RecordShape.atObjectEnd
        ⟨some event.kind.code, event.scope.map some, some event.payload.data, some event.timestamp⟩
        rest = .ok event.wire := by
  obtain ⟨payload, scope, timestamp⟩ := event
  cases scope with
  | none => rfl
  | some name => rfl

/-- The members of an event are gathered up to the closing brace. -/
theorem IsExact.objectFields {event : Event} (exact : event.IsExact) (bound : Nat) :
    ReadsWithin innerDepth event.payload.depth
      (wireShape.objectFields (bound + 5) true wireShape.empty (ofChars event.written.tail))
      (⟨some event.kind.code, event.scope.map some, some event.payload.data, some event.timestamp⟩,
        [.char '\x7d']) := by
  have split : ofChars event.written.tail =
      ofChars event.heading ++ (ofChars (",\"data\":".toList ++ event.payload.written) ++
        (ofChars (",\"timestamp\":".toList ++ (toString event.timestamp).toList) ++
          [.char '\x7d'])) := by
    simp only [written, List.cons_append, List.tail_cons, Json.Symbol.ofChars_append,
      Json.Symbol.ofChars_cons, Json.Symbol.ofChars_nil, List.append_assoc]
  obtain ⟨left, enough, headed⟩ := objectFields_heading event (bound + 3)
    (ofChars (",\"data\":".toList ++ event.payload.written) ++
      (ofChars (",\"timestamp\":".toList ++ (toString event.timestamp).toList) ++ [.char '\x7d']))
  obtain ⟨left, rfl⟩ : ∃ more, left = more + 3 := ⟨left - 3, by omega⟩
  have data := exact.payload.readsBack innerDepth
    (ofChars (",\"timestamp\":".toList ++ (toString event.timestamp).toList) ++ [.char '\x7d']) rfl
  rw [split, headed, objectFields_data (left + 2) rfl, ← Nat.max_zero event.payload.depth]
  refine (data.within (.key "data")).bind ?_
  apply ReadsWithin.of_eq
  rw [objectFields_timestamp (left + 1) rfl exact.timestamp rfl, Json.RecordShape.objectFields_nil]

theorem objectRest_eq (input : List Json.Symbol) :
    wireShape.objectRest input =
      (wireShape.objectFields (input.length + 1) true wireShape.empty input).bind fun found =>
        (wireShape.close Json.RecordShape.atObjectEnd found.1 found.2).map fun wire =>
          (wire, Json.closing found.2) := by
  rw [Json.RecordShape.objectRest]
  cases wireShape.objectFields (input.length + 1) true wireShape.empty input with
  | error fault => rfl
  | ok found => rfl

theorem IsExact.read {event : Event} (exact : event.IsExact) :
    ReadsWithin Json.deepest event.depth (wireShape.read (ofChars event.written)) (event.wire, []) := by
  have opened : wireShape.read (ofChars event.written) =
      wireShape.objectRest (ofChars event.written.tail) := by
    have brace : ofChars event.written = .char '\x7b' :: ofChars event.written.tail := by
      simp only [written, List.cons_append, List.tail_cons, Json.Symbol.ofChars_cons]
    rw [brace]
    simp [Json.RecordShape.read, Json.skipBlanks_cons, Json.isSpace, Json.opening?]
  obtain ⟨bound, long⟩ : ∃ bound, (ofChars event.written.tail).length + 1 = bound + 5 := by
    refine ⟨(ofChars event.written.tail).length - 4, ?_⟩
    have long : 7 ≤ event.heading.length := by
      unfold heading
      simp
    simp only [written, ofChars, List.cons_append, List.tail_cons, List.length_map,
      List.length_append]
    omega
  have gathered : ReadsWithin innerDepth (max event.payload.depth 0)
      (wireShape.objectRest (ofChars event.written.tail)) (event.wire, []) := by
    rw [objectRest_eq, long]
    refine (exact.objectFields bound).bind ?_
    apply ReadsWithin.of_eq
    rw [close_gathered]
    rfl
  rw [Nat.max_zero] at gathered
  rw [opened]
  exact gathered.succ

theorem ofWire_wire (event : Event) : ofWire event.wire = .ok event := by
  rw [ofWire, wire, kind, Payload.ofCode_data]
  rfl

/-- An event is read back from its wire form, whatever its texts, its scope and its data are. If the
form is nested deeper than the reader goes, it is refused for that, and never taken for another
event. -/
theorem parse_text {event : Event} (exact : event.IsExact) :
    (event.depth ≤ Json.deepest → parse (Json.Symbol.ofText event.text) = .ok event) ∧
      (Json.deepest < event.depth → ∃ fault,
        parse (Json.Symbol.ofText event.text) = .error (.fault fault) ∧ fault.cause = .tooDeep) := by
  have read := exact.read
  rw [text, Json.Symbol.ofText_ofList]
  constructor
  · intro shallow
    rw [parse, read.read shallow]
    simp only [ofWire_wire]
    rfl
  · intro deeper
    obtain ⟨fault, refused, tooDeep⟩ := read.refused deeper
    rw [parse, refused]
    exact ⟨fault, rfl, tooDeep⟩

/-- The least and the greatest numbers, an empty scope and characters of every kind are kept. Lists
nested to 127 do not fit into an event. -/
theorem parse_text_extremes :
    let event : Event := ⟨.update (.object
      [("", .array [.null, .bool true, .number (.integer (-2 ^ 63)), .number (.integer (2 ^ 64 - 1))]),
        ("\"\\/\n\x01é😀", .string "\x7f\t")]), some "", -2 ^ 63⟩
    let deep : Event := ⟨.update (Nat.repeat (fun inner => .array [inner]) 127 .null), none, 0⟩
    parse (Json.Symbol.ofText event.text) = .ok event ∧
      ∃ fault, parse (Json.Symbol.ofText deep.text) = .error (.fault fault) ∧ fault.cause = .tooDeep := by
  intro event deep
  have kept : event.IsExact := by
    refine ⟨?_, by decide⟩
    rintro content ⟨⟩
    refine .object (by unfold Json.Members.Ordered; decide) ?_
    simp only [List.mem_cons, List.not_mem_nil, or_false, forall_eq_or_imp, forall_eq]
    refine ⟨.array ?_, .string _⟩
    simp only [List.mem_cons, List.not_mem_nil, or_false, forall_eq_or_imp, forall_eq]
    exact ⟨.null, .bool true, .integer ⟨by decide, by decide⟩, .integer ⟨by decide, by decide⟩⟩
  have nested (count : Nat) :
      (Nat.repeat (fun inner => .array [inner]) count .null : Json.Value).IsExact ∧
        (Nat.repeat (fun inner => .array [inner]) count .null : Json.Value).depth = count := by
    induction count with
    | zero => exact ⟨.null, rfl⟩
    | succ count inductionHypothesis =>
      obtain ⟨exact, depth⟩ := inductionHypothesis
      refine ⟨.array fun item present => ?_, ?_⟩
      · rw [List.mem_singleton.mp present]
        exact exact
      · simp [Nat.repeat, Json.Value.depth, Json.itemsDepth, depth]
  have keptDeep : deep.IsExact := by
    refine ⟨?_, by decide⟩
    rintro content ⟨⟩
    exact (nested 127).1
  have tooDeep : Json.deepest < deep.depth := by
    rw [depth, Payload.depth, (nested 127).2]
    decide
  exact ⟨(parse_text kept).1 (by decide), (parse_text keptDeep).2 tooDeep⟩

end Event
end Dashboard
