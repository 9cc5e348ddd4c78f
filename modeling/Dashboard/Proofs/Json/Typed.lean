import Dashboard.Json.Record
import Dashboard.Proofs.Json.Decode
import Dashboard.Proofs.Json.Reader

namespace Dashboard.Json

/-- What is no list and no object is read without a look into brackets. -/
theorem exists_scalar_of_value {depth : Nat} {input rest : List Symbol} {content : Value}
    (read : value depth input = .ok (content, rest)) (noList : ∀ values, content ≠ .array values)
    (noObject : ∀ entries, content ≠ .object entries) :
    ∃ c behind, skipBlanks input = .char c :: behind ∧ ReadAs tooDeep tooDeep c behind content rest := by
  cases depth with
  | zero => exact exists_readAs read
  | succ depth =>
    obtain ⟨c, behind, begins, readAs⟩ := exists_readAs read
    refine ⟨c, behind, begins, ?_⟩
    cases readAs with
    | list taken =>
      obtain ⟨⟨values, _⟩, -, same⟩ := exists_of_map_eq_ok taken
      exact absurd (Prod.mk.inj same).1.symm (noList values)
    | object taken =>
      obtain ⟨⟨entries, _⟩, -, same⟩ := exists_of_map_eq_ok taken
      exact absurd (Prod.mk.inj same).1.symm (noObject _)
    | text quoted => exact .text quoted
    | number starts numbered => exact .number starts numbered
    | null passed => exact .null passed
    | isTrue passed => exact .isTrue passed
    | isFalse passed => exact .isFalse passed

variable {depth : Nat} {input rest : List Symbol} {content : Value}

theorem text_of_value {text : String} (read : value depth input = .ok (content, rest))
    (decoded : content.asText = .ok text) : Json.text input = .ok (text, rest) := by
  obtain rfl := Value.asText_eq_ok_iff.mp decoded
  obtain ⟨c, behind, begins, readAs⟩ := exists_scalar_of_value read nofun nofun
  cases readAs with
  | list refused => cases refused
  | object refused => cases refused
  | text quoted => simp [Json.text, textCalled, begins, quoted]

theorem optional_text_of_value {text : Option String} (read : value depth input = .ok (content, rest))
    (decoded : content.asOptional Value.asText = .ok text) :
    optional Json.text input = .ok (text, rest) := by
  rcases Value.asOptional_eq_ok_iff.mp decoded with ⟨rfl, rfl⟩ | ⟨-, text, isText, rfl⟩
  · obtain ⟨c, behind, begins, readAs⟩ := exists_scalar_of_value read nofun nofun
    cases readAs with
    | list refused => cases refused
    | object refused => cases refused
    | null passed =>
      rw [optional, begins]
      simp only [passed, Except.map]
  · have taken := text_of_value read isText
    obtain rfl := Value.asText_eq_ok_iff.mp isText
    obtain ⟨c, behind, begins, readAs⟩ := exists_scalar_of_value read nofun nofun
    cases readAs with
    | list refused => cases refused
    | object refused => cases refused
    | text quoted =>
      rw [optional, begins]
      simp [taken, Except.map]

/-- The whole number of the given kind that a value is. -/
def Value.asInteger (kind : Schema.IntegerKind) : Value → Except Schema.Misfit Int
  | .number (.integer whole) => kind.check whole
  | value => .error (.wrongType value.found kind.name)

theorem Value.asInteger_eq_ok_iff {kind : Schema.IntegerKind} {content : Value} {whole : Int} :
    content.asInteger kind = .ok whole ↔
      content = .integer whole ∧ kind.least ≤ whole ∧ whole ≤ kind.greatest := by
  constructor
  · intro decoded
    rw [asInteger.eq_def] at decoded
    split at decoded
    · rw [Schema.IntegerKind.check] at decoded
      split at decoded
      · cases decoded
        exact ⟨rfl, ‹_›⟩
      · cases decoded
    · cases decoded
  · rintro ⟨rfl, fits⟩
    rw [integer, asInteger, Schema.IntegerKind.check, if_pos fits]

theorem integer_of_value {kind : Schema.IntegerKind} {whole : Int}
    (read : value depth input = .ok (content, rest))
    (decoded : content.asInteger kind = .ok whole) : integer kind input = .ok (whole, rest) := by
  obtain ⟨rfl, fits⟩ := Value.asInteger_eq_ok_iff.mp decoded
  obtain ⟨c, behind, begins, readAs⟩ := exists_scalar_of_value read nofun nofun
  generalize same : Value.integer whole = content at readAs
  cases readAs with
  | list refused => cases refused
  | object refused => cases refused
  | number starts numbered =>
    obtain rfl := Value.number.inj same
    rw [integer, begins]
    simp only [starts, if_true, numbered, Schema.IntegerKind.check, if_pos fits]
  | text | null | isTrue | isFalse => cases same

end Dashboard.Json
