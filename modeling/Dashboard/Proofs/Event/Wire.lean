import Dashboard.Proofs.Event.RoundTrip
import Dashboard.Proofs.Event.Schema
import Dashboard.Proofs.Json.Record
import Dashboard.Proofs.Json.Typed

namespace Dashboard.Event

open Json (Value Symbol)
open Schema (Field decodeFound)

/-- The wire form as a record of values. -/
def wireRecord : Schema.Record Value WireParts Wire where
  name := wireShape.name
  fields := [
    .replacing "type" false Value.asText fun parts kind => { parts with kind := some kind },
    .replacing "widget_id" true (Value.asOptional Value.asText) fun parts scope =>
      { parts with scope := some scope },
    .replacing "data" true .ok fun parts data => { parts with data := some data },
    .replacing "timestamp" false (Value.asInteger .signed64) fun parts timestamp =>
      { parts with timestamp := some timestamp }]
  empty := wireShape.empty
  make := wireShape.make

theorem build_wireRecord (find : String → Option Value) :
    wireRecord.build find =
      (decodeFound Value.asText (find "type")).bind fun kind =>
        (decodeFound (Value.asOptional Value.asText) (find "widget_id")).bind fun scope =>
          (decodeFound .ok (find "data")).bind fun data =>
            (decodeFound (Value.asInteger .signed64) (find "timestamp")).bind fun timestamp =>
              (wireRecord.make ⟨kind, scope, data, timestamp⟩).toOption := by
  rw [Schema.Record.build, wireRecord]
  simp only [Field.supplyAll_replacing, Field.supplyAll_nil, Option.bind_assoc, Option.bind_some]
  refine Option.bind_congr fun kind _ => Option.bind_congr fun scope _ =>
    Option.bind_congr fun data _ => Option.bind_congr fun timestamp _ => ?_
  cases kind <;> cases scope <;> cases data <;> cases timestamp <;> rfl

/-- What must be found for a wire form: a type, perhaps a scope, perhaps data, and a time. -/
structure FoundWire (find : String → Option Value) (wire : Wire) : Prop where
  kind : find "type" = some (.string wire.kind)
  scope : MaybeText wire.scope (find "widget_id")
  data : (find "data").getD .null = wire.data
  timestamp : find "timestamp" = some (.integer wire.timestamp)
  inRange : Schema.IntegerKind.signed64.least ≤ wire.timestamp ∧
    wire.timestamp ≤ Schema.IntegerKind.signed64.greatest

theorem decodeFound_ok (found : Option Value) : decodeFound .ok found = some found := by
  cases found <;> rfl

theorem build_wireRecord_eq_some_iff {find : String → Option Value} {wire : Wire} :
    wireRecord.build find = some wire ↔ FoundWire find wire := by
  rw [build_wireRecord]
  constructor
  · intro built
    obtain ⟨kind, kindFound, built⟩ := Option.bind_eq_some_iff.mp built
    obtain ⟨scope, scopeFound, built⟩ := Option.bind_eq_some_iff.mp built
    obtain ⟨data, dataFound, built⟩ := Option.bind_eq_some_iff.mp built
    obtain ⟨timestamp, timestampFound, built⟩ := Option.bind_eq_some_iff.mp built
    have accepted := Schema.toOption_eq_some_iff.mp built
    cases kind with
    | none => cases accepted
    | some kind =>
      cases timestamp with
      | none => cases accepted
      | some timestamp =>
        obtain rfl := Except.ok.inj accepted
        obtain ⟨value, found, decoded⟩ := Schema.decodeFound_eq_some_some.mp timestampFound
        obtain ⟨rfl, inRange⟩ := Value.asInteger_eq_ok_iff.mp decoded
        refine ⟨decodeFound_text.mp kindFound, ?_, ?_, found, inRange⟩
        · refine decodeFound_maybeText.mp ?_
          rw [scopeFound]
          cases scope <;> rfl
        · rw [decodeFound_ok] at dataFound
          rw [Option.some.inj dataFound]
  · rintro ⟨kindFound, scopeFound, dataFound, timestampFound, inRange⟩
    obtain ⟨scope, decoded, joined⟩ :=
      Option.map_eq_some_iff.mp (decodeFound_maybeText.mpr scopeFound)
    have timestamp : decodeFound (Value.asInteger .signed64) (find "timestamp") =
        some (some wire.timestamp) :=
      Schema.decodeFound_eq_some_some.mpr
        ⟨_, timestampFound, Value.asInteger_eq_ok_iff.mpr ⟨rfl, inRange⟩⟩
    rw [decodeFound_text.mpr kindFound, decoded, decodeFound_ok, timestamp]
    have scope : scope.getD none = wire.scope := by
      rw [← joined]
      cases scope <;> rfl
    simp only [Option.bind_some, wireRecord, wireShape, Schema.toOption_eq_some_iff, dataFound,
      scope]

theorem lawful_wireRecord : wireRecord.Lawful where
  distinct := by decide
  commutes := by
    refine .cons ?_ (.cons ?_ (.cons ?_ (List.pairwise_singleton ..)))
    all_goals simp only [List.mem_cons, List.not_mem_nil, or_false, forall_eq_or_imp, forall_eq]
    · exact ⟨Field.commutes_replacing fun _ _ _ => rfl, Field.commutes_replacing fun _ _ _ => rfl,
        Field.commutes_replacing fun _ _ _ => rfl⟩
    · exact ⟨Field.commutes_replacing fun _ _ _ => rfl, Field.commutes_replacing fun _ _ _ => rfl⟩
    · exact Field.commutes_replacing fun _ _ _ => rfl
  needed find wire built := by
    have found := build_wireRecord_eq_some_iff.mp built
    simp [wireRecord, Field.replacing, found.kind, found.timestamp]

theorem mirrors_wireShape : wireShape.Mirrors innerDepth wireRecord where
  slots := by
    refine .cons (.of_replacing rfl Json.text_of_value)
      (.cons (.of_replacing rfl Json.optional_text_of_value)
        (.cons (.of_replacing rfl ?_)
          (.cons (.of_replacing rfl Json.integer_of_value) .nil)))
    rintro input rest content decoded taken ⟨⟩
    exact taken
  empty := rfl
  make := rfl
  unfilled := by simp [wireShape]
  filled := by
    simp only [wireShape, wireRecord, List.forall_mem_cons]
    refine ⟨⟨?_, ?_, ?_, ?_, nofun⟩, ⟨?_, ?_, ?_, ?_, nofun⟩, ⟨?_, ?_, ?_, ?_, nofun⟩,
      ⟨?_, ?_, ?_, ?_, nofun⟩, nofun⟩
    all_goals
      intro gathered next content filled isFilled
      obtain ⟨decoded, -, rfl⟩ := Field.fill_replacing.mp filled
      first | exact .inr rfl | exact .inl isFilled

/-- A text writes a wire form: an object that has its members, each once and in any order among others, or
the list of them; only blanks follow. -/
def WritesWire (source : List Symbol) (wire : Wire) : Prop :=
  ∃ find rest, Json.Writes innerDepth ["type", "widget_id", "data", "timestamp"] source rest find ∧
    Json.skipBlanks rest = [] ∧ FoundWire find wire

theorem parse_of_writesWire {source : List Symbol} {wire : Wire} (written : WritesWire source wire) :
    parse source = match Payload.ofCode wire.kind wire.data with
      | .ok payload => .ok ⟨payload, wire.scope, wire.timestamp⟩
      | .error error => .error (.payload error) := by
  obtain ⟨find, rest, written, blank, found⟩ := written
  have built := build_wireRecord_eq_some_iff.mpr found
  rw [parse, mirrors_wireShape.read lawful_wireRecord written built]
  simp only [ofWire]
  cases Payload.ofCode wire.kind wire.data with
  | error error => rfl
  | ok payload =>
    simp only [Except.map, Json.finish, blank]
    rfl

/-- Members with exact values that are not nested too deep make a wire form in any order. -/
theorem writesWire_writtenMembers {entries : List (String × Value)} {wire : Wire}
    (exact : ∀ member ∈ entries, member.2.IsExact) (shallow : Json.membersDepth entries ≤ innerDepth)
    (once : Schema.NamedOnce ["type", "widget_id", "data", "timestamp"] entries)
    (found : FoundWire (entries.lookup ·) wire) :
    WritesWire (Json.Symbol.ofChars ('\x7b' :: Json.writtenMembers entries)) wire := by
  refine ⟨_, [], .object ⟨Json.Symbol.ofChars (Json.writtenMembers entries), rfl, ?_⟩ once, rfl, found⟩
  have enough : entries.length < (Json.Symbol.ofChars (Json.writtenMembers entries)).length + 1 := by
    rw [Json.Symbol.ofChars, List.length_map]
    exact Nat.lt_succ_of_le (Json.length_le_writtenMembers entries)
  have read := Json.members_remainingMembers entries [] enough
    (fun member present => (exact member present).readsBack innerDepth) []
  rw [List.isEmpty_nil, ← Json.writtenMembers_eq, List.append_nil] at read
  exact read.read shallow

/-- Typed payloads are taken from exactly the data that fits their kind. A code that is not one of the four
is unknown; under any other, data is taken for the payload of that kind that it fits, and refused if it
fits none. The data of a payload is taken for that payload again. A wire form gives the same payload, or
is refused for the same reason, however it is written. -/
theorem ofCode_iff_fits {data : Value} (distinct : data.HasDistinctKeys) :
    (∀ code, code ∉ ["update", "error", "data_changed", "notification"] →
      Payload.ofCode code data = .error (.unknownKind code)) ∧
    (∀ kind payload, Payload.ofData kind data = .ok payload ↔
      payload.kind = kind ∧ payload.Fits data) ∧
    (∀ kind, Payload.ofCode kind.code data = (Payload.ofData kind data).mapError (.mismatch kind)) ∧
    (∀ payload, Payload.ofData payload.kind payload.data = .ok payload) ∧
    ∀ source code scope timestamp, WritesWire source ⟨code, scope, data, timestamp⟩ →
      parse source = match Payload.ofCode code data with
        | .ok payload => .ok ⟨payload, scope, timestamp⟩
        | .error error => .error (.payload error) := by
  refine ⟨fun code unknown => ?_, fun kind payload => Payload.ofData_eq_ok_iff kind distinct payload,
    fun kind => ?_, Payload.ofData_data, fun source code scope timestamp written => ?_⟩
  · have noKind : Kind.ofCode? code = none := by
      rw [Option.eq_none_iff_forall_ne_some]
      intro kind found
      obtain rfl := Kind.code_of_ofCode? found
      cases kind <;> simp [Kind.code] at unknown
    rw [Payload.ofCode, noKind]
  · rw [Payload.ofCode, Kind.ofCode?_code]
  · exact parse_of_writesWire written

/-- A change that is written with its members in another order, with one that is not known and with its
action as an object, is taken for the same change as its data. -/
theorem ofCode_iff_fits_deleted :
    let data : Value := .object [("action", .object [("deleted", .null)]), ("entity", .string "note"),
      ("size", .integer 3)]
    let text := "\x7b\"x\":[1,\x7b\x7d],"
      ++ "\"data\":\x7b\"action\":\x7b\"deleted\":null\x7d,\"entity\":\"note\",\"size\":3\x7d,"
      ++ "\"timestamp\":7,\"type\":\"data_changed\"\x7d"
    Payload.ofData .dataChanged data = .ok (.change "note" .deleted none) ∧
      parse (Symbol.ofText text) = .ok ⟨.change "note" .deleted none, none, 7⟩ := by
  intro data text
  have distinct : data.HasDistinctKeys := by
    intro members same
    obtain rfl := Value.object.inj same
    exact show (["action", "entity", "size"] : List String).Nodup by decide
  obtain ⟨-, taken, byCode, -, written⟩ := ofCode_iff_fits distinct
  have fits : Payload.ofData .dataChanged data = .ok (.change "note" .deleted none) :=
    (taken _ _).mpr ⟨rfl, _, .object _, rfl, ⟨_, rfl, .object⟩, .absent⟩
  have known : Payload.ofCode "data_changed" data = .ok (.change "note" .deleted none) :=
    (byCode .dataChanged).trans (congrArg _ fits)
  have exactData : data.IsExact := by
    refine .object (by unfold Json.Members.Ordered; decide) ?_
    simp only [List.forall_mem_cons]
    exact ⟨.object (by unfold Json.Members.Ordered; decide) (by simp [Value.IsExact.null]), .string _,
      .integer ⟨by decide, by decide⟩, nofun⟩
  let entries : List (String × Value) := [("x", .array [.integer 1, .object []]), ("data", data),
    ("timestamp", .integer 7), ("type", .string "data_changed")]
  have exact : ∀ member ∈ entries, member.2.IsExact := by
    simp only [entries, List.forall_mem_cons]
    refine ⟨.array ?_, exactData, .integer ⟨by decide, by decide⟩, .string _, nofun⟩
    simp only [List.forall_mem_cons]
    exact ⟨.integer ⟨by decide, by decide⟩, .object .nil nofun, nofun⟩
  have writes : WritesWire (Symbol.ofChars ('\x7b' :: Json.writtenMembers entries))
      ⟨"data_changed", none, data, 7⟩ :=
    writesWire_writtenMembers exact (by decide +kernel) (by unfold Schema.NamedOnce; decide)
      ⟨rfl, .absent, rfl, rfl, by decide⟩
  have same : Symbol.ofChars ('\x7b' :: Json.writtenMembers entries) = Symbol.ofText text := by
    decide +kernel
  have parsed := written _ _ none 7 writes
  rw [known, same] at parsed
  exact ⟨fits, parsed⟩

end Dashboard.Event
