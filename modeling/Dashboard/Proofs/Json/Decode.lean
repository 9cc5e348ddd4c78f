import Dashboard.Json.Decode
import Dashboard.Proofs.Schema.Record

namespace Dashboard.Json.Value

open Schema (Misfit Record)

variable {σ α : Type}

theorem asText_eq_ok_iff {value : Value} {text : String} :
    value.asText = .ok text ↔ value = .string text := by
  cases value <;> simp [asText]

theorem asOptional_eq_ok_iff {decode : Value → Except Misfit α} {value : Value} {found : Option α} :
    value.asOptional decode = .ok found ↔ value = .null ∧ found = none ∨
      value ≠ .null ∧ ∃ content, decode value = .ok content ∧ found = some content := by
  by_cases null : value = .null
  · simp [null, asOptional, eq_comm]
  · have decoded : value.asOptional decode = (decode value).map some := by
      cases value with
      | null => exact absurd rfl null
      | bool | number | string | array | object => rfl
    rw [decoded]
    cases decode value with
    | error reason => simp [null, Except.map]
    | ok content => simp [null, Except.map, eq_comm]

/-- The values that name an alternative: its name, or the object of its name over `null`. -/
inductive Names (name : String) : Value → Prop where
  | text : Names name (.string name)
  | object : Names name (.object [(name, .null)])

theorem choose_eq_ok_iff {variants : List (String × α)} {name : String} {variant : α} :
    choose variants name = .ok variant ↔ variants.lookup name = some variant := by
  rw [choose]
  cases variants.lookup name with
  | none => simp
  | some found => simp

theorem asVariant_eq_ok_iff {variants : List (String × α)} {value : Value} {variant : α} :
    value.asVariant variants = .ok variant ↔
      ∃ name, Names name value ∧ variants.lookup name = some variant := by
  constructor
  · intro decoded
    rw [asVariant.eq_def] at decoded
    split at decoded
    · exact ⟨_, .text, choose_eq_ok_iff.mp decoded⟩
    · rename_i name content
      split at decoded
      · cases decoded
      · rename_i found chosen
        split at decoded
        · obtain rfl := Except.ok.inj decoded
          exact ⟨name, .object, choose_eq_ok_iff.mp chosen⟩
        · cases decoded
    · cases decoded
    · cases decoded
  · rintro ⟨name, named, found⟩
    have chosen := choose_eq_ok_iff.mpr found
    cases named with
    | text => exact chosen
    | object => simp only [asVariant, chosen]

/-- What an object, or a list of no more than its items, gives for the fields of some names. -/
inductive Gives (names : List String) : Value → (String → Option Value) → Prop where
  | object (members : List (String × Value)) : Gives names (.object members) (members.lookup ·)
  | array (items : List Value) (short : items.length ≤ names.length) :
    Gives names (.array items) ((names.zip items).lookup ·)

/-- An object has each of its keys once. -/
def HasDistinctKeys (value : Value) : Prop :=
  ∀ members, value = .object members → Association.Distinct members

theorem asRecord_eq_ok_iff {record : Record Value σ α} (lawful : record.Lawful) {value : Value}
    (distinct : value.HasDistinctKeys) {made : α} :
    value.asRecord record = .ok made ↔
      ∃ find, Gives record.names value find ∧ record.build find = some made := by
  cases value with
  | object members =>
    have once := Schema.namedOnce_of_distinct (distinct members rfl) record.names
    rw [asRecord, lawful.ofEntries_eq_ok_iff once]
    constructor
    · exact fun built => ⟨_, .object members, built⟩
    · rintro ⟨_, ⟨⟩, built⟩
      exact built
  | array items =>
    have taken := lawful.ofItems_eq_ok_iff items
    have width : record.names.length = record.fields.length := List.length_map ..
    constructor
    · intro accepted
      rw [asRecord] at accepted
      split at accepted
      · cases accepted
      · rename_i found outcome
        split at accepted
        · rename_i short
          obtain rfl := Except.ok.inj accepted
          exact ⟨_, .array items (width ▸ short), (taken found).mp outcome⟩
        · cases accepted
    · rintro ⟨_, given, built⟩
      cases given with
      | array _ short =>
        simp only [asRecord, (taken made).mpr built, if_pos (width ▸ short)]
  | null | bool | number | string =>
    constructor
    · intro accepted
      cases accepted
    · rintro ⟨_, ⟨⟩, -⟩

end Dashboard.Json.Value
