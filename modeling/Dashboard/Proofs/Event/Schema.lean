import Dashboard.Event.Payload
import Dashboard.Proofs.Json.Decode

namespace Dashboard.Event

open Json (Value)
open Json.Value (Names Gives)
open Schema (Field decodeFound)

theorem ChangeAction.lookup_variants (name : String) (action : ChangeAction) :
    variants.lookup name = some action ↔ name = action.name := by
  have distinct : Association.Distinct variants := show (variants.map Prod.fst).Nodup by decide
  rw [← distinct.mem_iff]
  cases action <;> simp [variants, ChangeAction.name]

theorem NoticeLevel.lookup_variants (name : String) (level : NoticeLevel) :
    variants.lookup name = some level ↔ name = level.name := by
  have distinct : Association.Distinct variants := show (variants.map Prod.fst).Nodup by decide
  rw [← distinct.mem_iff]
  cases level <;> simp [variants, NoticeLevel.name]

/-- An optional text is left out, or `null`, or given. -/
inductive MaybeText : Option String → Option Value → Prop where
  | absent : MaybeText none none
  | null : MaybeText none (some .null)
  | text (content : String) : MaybeText (some content) (some (.string content))

theorem decodeFound_text {found : Option Value} {text : String} :
    decodeFound Value.asText found = some (some text) ↔ found = some (.string text) := by
  simp [Schema.decodeFound_eq_some_some, Value.asText_eq_ok_iff]

theorem decodeFound_maybeText {found : Option Value} {text : Option String} :
    (decodeFound (Value.asOptional Value.asText) found).map Option.join = some text ↔
      MaybeText text found := by
  constructor
  · intro joined
    obtain ⟨content, decoded, rfl⟩ := Option.map_eq_some_iff.mp joined
    cases content with
    | none =>
      obtain rfl := Schema.decodeFound_eq_some_none.mp decoded
      exact .absent
    | some content =>
      obtain ⟨value, rfl, optional⟩ := Schema.decodeFound_eq_some_some.mp decoded
      rcases Value.asOptional_eq_ok_iff.mp optional with ⟨rfl, rfl⟩ | ⟨-, text, read, rfl⟩
      · exact .null
      · obtain rfl := Value.asText_eq_ok_iff.mp read
        exact .text text
  · rintro ⟨⟩ <;> rfl

theorem decodeFound_variant {α : Type} {variants : List (String × α)} {name : α → String}
    (named : ∀ text variant, variants.lookup text = some variant ↔ text = name variant)
    {found : Option Value} {variant : α} :
    decodeFound (Value.asVariant variants) found = some (some variant) ↔
      ∃ value, found = some value ∧ Names (name variant) value := by
  simp [Schema.decodeFound_eq_some_some, Value.asVariant_eq_ok_iff, named]

namespace Payload

theorem fields_changeRecord : changeRecord.fields = [
    .replacing "entity" false Value.asText fun parts entity => { parts with entity := some entity },
    .replacing "action" false (Value.asVariant ChangeAction.variants) fun parts action =>
      { parts with action := some action },
    .replacing "id" true (Value.asOptional Value.asText) fun parts id => { parts with id := id }] := rfl

theorem build_changeRecord (find : String → Option Value) :
    changeRecord.build find =
      (decodeFound Value.asText (find "entity")).bind fun entity =>
        (decodeFound (Value.asVariant ChangeAction.variants) (find "action")).bind fun action =>
          (decodeFound (Value.asOptional Value.asText) (find "id")).bind fun id =>
            (changeRecord.make ⟨entity, action, id.join⟩).toOption := by
  rw [Schema.Record.build, fields_changeRecord]
  simp only [Field.supplyAll_replacing, Field.supplyAll_nil, Option.bind_assoc, Option.bind_some]
  refine Option.bind_congr fun entity _ => Option.bind_congr fun action _ =>
    Option.bind_congr fun id _ => ?_
  cases entity <;> cases action <;> cases id <;> rfl

theorem build_changeRecord_eq_some_iff {find : String → Option Value} {payload : Payload} :
    changeRecord.build find = some payload ↔
      ∃ entity action id, payload = .change entity action id ∧
        find "entity" = some (.string entity) ∧
        (∃ value, find "action" = some value ∧ Names action.name value) ∧
        MaybeText id (find "id") := by
  rw [build_changeRecord]
  constructor
  · intro built
    obtain ⟨entity, entityFound, built⟩ := Option.bind_eq_some_iff.mp built
    obtain ⟨action, actionFound, built⟩ := Option.bind_eq_some_iff.mp built
    obtain ⟨id, idFound, built⟩ := Option.bind_eq_some_iff.mp built
    have accepted := Schema.toOption_eq_some_iff.mp built
    cases entity with
    | none => cases accepted
    | some entity =>
      cases action with
      | none => cases accepted
      | some action =>
        obtain rfl := Except.ok.inj accepted
        exact ⟨entity, action, id.join, rfl, decodeFound_text.mp entityFound,
          (decodeFound_variant ChangeAction.lookup_variants).mp actionFound,
          decodeFound_maybeText.mp (idFound ▸ rfl)⟩
  · rintro ⟨entity, action, id, rfl, entityFound, actionFound, idFound⟩
    have action := (decodeFound_variant ChangeAction.lookup_variants).mpr actionFound
    obtain ⟨found, id, rfl⟩ := Option.map_eq_some_iff.mp (decodeFound_maybeText.mpr idFound)
    rw [decodeFound_text.mpr entityFound, action, id]
    rfl

theorem lawful_changeRecord : changeRecord.Lawful where
  distinct := by decide
  commutes := by
    rw [fields_changeRecord]
    refine .cons ?_ (.cons ?_ (List.pairwise_singleton ..))
    · simp only [List.mem_cons, List.not_mem_nil, or_false, forall_eq_or_imp, forall_eq]
      exact ⟨Field.commutes_replacing fun _ _ _ => rfl, Field.commutes_replacing fun _ _ _ => rfl⟩
    · simp only [List.mem_cons, List.not_mem_nil, or_false, forall_eq]
      exact Field.commutes_replacing fun _ _ _ => rfl
  needed find made built := by
    obtain ⟨entity, action, id, -, entityFound, ⟨value, actionFound, -⟩, -⟩ :=
      build_changeRecord_eq_some_iff.mp built
    simp [changeRecord, entityFound, actionFound]

theorem fields_failureRecord : failureRecord.fields =
    [.replacing "message" false Value.asText fun _ message => some message] := rfl

theorem build_failureRecord (find : String → Option Value) :
    failureRecord.build find =
      (decodeFound Value.asText (find "message")).bind fun message =>
        (failureRecord.make message).toOption := by
  rw [Schema.Record.build, fields_failureRecord]
  simp only [Field.supplyAll_replacing, Field.supplyAll_nil, Option.bind_assoc, Option.bind_some]
  refine Option.bind_congr fun message _ => ?_
  cases message <;> rfl

theorem build_failureRecord_eq_some_iff {find : String → Option Value} {payload : Payload} :
    failureRecord.build find = some payload ↔
      ∃ message, payload = .failure message ∧ find "message" = some (.string message) := by
  rw [build_failureRecord]
  constructor
  · intro built
    obtain ⟨message, messageFound, built⟩ := Option.bind_eq_some_iff.mp built
    have accepted := Schema.toOption_eq_some_iff.mp built
    cases message with
    | none => cases accepted
    | some message =>
      obtain rfl := Except.ok.inj accepted
      exact ⟨message, rfl, decodeFound_text.mp messageFound⟩
  · rintro ⟨message, rfl, messageFound⟩
    rw [decodeFound_text.mpr messageFound]
    rfl

theorem lawful_failureRecord : failureRecord.Lawful where
  distinct := by decide
  commutes := List.pairwise_singleton ..
  needed find made built := by
    obtain ⟨message, -, messageFound⟩ := build_failureRecord_eq_some_iff.mp built
    simp [failureRecord, messageFound]

theorem fields_noticeRecord : noticeRecord.fields = [
    .replacing "level" false (Value.asVariant NoticeLevel.variants) fun parts level =>
      { parts with level := some level },
    .replacing "message" false Value.asText fun parts message =>
      { parts with message := some message }] := rfl

theorem build_noticeRecord (find : String → Option Value) :
    noticeRecord.build find =
      (decodeFound (Value.asVariant NoticeLevel.variants) (find "level")).bind fun level =>
        (decodeFound Value.asText (find "message")).bind fun message =>
          (noticeRecord.make ⟨level, message⟩).toOption := by
  rw [Schema.Record.build, fields_noticeRecord]
  simp only [Field.supplyAll_replacing, Field.supplyAll_nil, Option.bind_assoc, Option.bind_some]
  refine Option.bind_congr fun level _ => Option.bind_congr fun message _ => ?_
  cases level <;> cases message <;> rfl

theorem build_noticeRecord_eq_some_iff {find : String → Option Value} {payload : Payload} :
    noticeRecord.build find = some payload ↔
      ∃ level message, payload = .notice level message ∧
        (∃ value, find "level" = some value ∧ Names level.name value) ∧
        find "message" = some (.string message) := by
  rw [build_noticeRecord]
  constructor
  · intro built
    obtain ⟨level, levelFound, built⟩ := Option.bind_eq_some_iff.mp built
    obtain ⟨message, messageFound, built⟩ := Option.bind_eq_some_iff.mp built
    have accepted := Schema.toOption_eq_some_iff.mp built
    cases level with
    | none => cases accepted
    | some level =>
      cases message with
      | none => cases accepted
      | some message =>
        obtain rfl := Except.ok.inj accepted
        exact ⟨level, message, rfl, (decodeFound_variant NoticeLevel.lookup_variants).mp levelFound,
          decodeFound_text.mp messageFound⟩
  · rintro ⟨level, message, rfl, levelFound, messageFound⟩
    rw [(decodeFound_variant NoticeLevel.lookup_variants).mpr levelFound,
      decodeFound_text.mpr messageFound]
    rfl

theorem lawful_noticeRecord : noticeRecord.Lawful where
  distinct := by decide
  commutes := by
    rw [fields_noticeRecord]
    refine .cons ?_ (List.pairwise_singleton ..)
    simp only [List.mem_cons, List.not_mem_nil, or_false, forall_eq]
    exact Field.commutes_replacing fun _ _ _ => rfl
  needed find made built := by
    obtain ⟨level, message, -, ⟨value, levelFound, -⟩, messageFound⟩ :=
      build_noticeRecord_eq_some_iff.mp built
    simp [noticeRecord, levelFound, messageFound]

/-- The data of a payload: what it must find for its fields, in an object that may have other members or
in the list of exactly its fields. Any data is that of an update. -/
def Fits (payload : Payload) (data : Value) : Prop :=
  match payload with
  | update content => data = content
  | failure message => ∃ find, Gives ["message"] data find ∧ find "message" = some (.string message)
  | change entity action id => ∃ find, Gives ["entity", "action", "id"] data find ∧
      find "entity" = some (.string entity) ∧
      (∃ value, find "action" = some value ∧ Names action.name value) ∧
      MaybeText id (find "id")
  | notice level message => ∃ find, Gives ["level", "message"] data find ∧
      (∃ value, find "level" = some value ∧ Names level.name value) ∧
      find "message" = some (.string message)

theorem ofData_eq_ok_iff (kind : Kind) {data : Value} (distinct : data.HasDistinctKeys)
    (payload : Payload) :
    ofData kind data = .ok payload ↔ payload.kind = kind ∧ payload.Fits data := by
  cases kind with
  | update =>
    constructor
    · rintro ⟨⟩
      exact ⟨rfl, rfl⟩
    · rintro ⟨same, fits⟩
      cases payload with
      | update content =>
        obtain rfl : data = content := fits
        rfl
      | failure | change | notice => cases same
  | error =>
    rw [ofData, Value.asRecord_eq_ok_iff lawful_failureRecord distinct]
    simp only [build_failureRecord_eq_some_iff]
    constructor
    · rintro ⟨find, given, message, rfl, found⟩
      exact ⟨rfl, find, given, found⟩
    · rintro ⟨same, fits⟩
      cases payload with
      | failure message =>
        obtain ⟨find, given, found⟩ := fits
        exact ⟨find, given, message, rfl, found⟩
      | update | change | notice => cases same
  | dataChanged =>
    rw [ofData, Value.asRecord_eq_ok_iff lawful_changeRecord distinct]
    simp only [build_changeRecord_eq_some_iff]
    constructor
    · rintro ⟨find, given, entity, action, id, rfl, found⟩
      exact ⟨rfl, find, given, found⟩
    · rintro ⟨same, fits⟩
      cases payload with
      | change entity action id =>
        obtain ⟨find, given, found⟩ := fits
        exact ⟨find, given, entity, action, id, rfl, found⟩
      | update | failure | notice => cases same
  | notification =>
    rw [ofData, Value.asRecord_eq_ok_iff lawful_noticeRecord distinct]
    simp only [build_noticeRecord_eq_some_iff]
    constructor
    · rintro ⟨find, given, level, message, rfl, found⟩
      exact ⟨rfl, find, given, found⟩
    · rintro ⟨same, fits⟩
      cases payload with
      | notice level message =>
        obtain ⟨find, given, found⟩ := fits
        exact ⟨find, given, level, message, rfl, found⟩
      | update | failure | change => cases same

end Payload
end Dashboard.Event
