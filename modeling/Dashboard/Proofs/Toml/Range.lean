import Dashboard.Proofs.Toml.Reading

namespace Dashboard.Toml

mutual

/-- Whether every whole number in a value can be written. -/
def Value.isHeld : Value → Bool
  | .integer value => isWritable value
  | .array items => areHeld items
  | .table entries => entriesHeld entries
  | _ => true

def areHeld : List Value → Bool
  | [] => true
  | item :: rest => item.isHeld && areHeld rest

def entriesHeld : List (String × Value) → Bool
  | [] => true
  | entry :: rest => entry.2.isHeld && entriesHeld rest

end

theorem areHeld_iff (items : List Value) :
    areHeld items = true ↔ ∀ item ∈ items, item.isHeld = true := by
  induction items with
  | nil => simp [areHeld]
  | cons item items inductionHypothesis => simp [areHeld, inductionHypothesis]

theorem entriesHeld_iff (entries : List (String × Value)) :
    entriesHeld entries = true ↔ ∀ entry ∈ entries, entry.2.isHeld = true := by
  induction entries with
  | nil => simp [entriesHeld]
  | cons entry entries inductionHypothesis => simp [entriesHeld, inductionHypothesis]

theorem Value.WellFormed.isHeld {value : Value} (wellFormed : value.WellFormed) :
    value.isHeld = true := by
  induction wellFormed with
  | boolean _ | float _ | string _ | datetime => rfl
  | integer writable => exact writable
  | array _ inductionHypothesis =>
    rw [Value.isHeld, areHeld_iff]
    exact inductionHypothesis
  | table _ _ inductionHypothesis =>
    rw [Value.isHeld, entriesHeld_iff]
    exact inductionHypothesis

/-- The whole numbers of a document can be written. -/
theorem parse_held {source : String} {entries : List (String × Value)}
    (parsed : parse source = some entries) : ∀ entry ∈ entries, entry.2.isHeld = true := by
  cases parse_wellFormed parsed with
  | table _ each => exact fun entry member => (each entry member).isHeld

end Dashboard.Toml
