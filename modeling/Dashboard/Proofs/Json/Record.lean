import Dashboard.Json.Record
import Dashboard.Proofs.Json.Decode
import Dashboard.Proofs.Json.Skipping

namespace Dashboard.Json

open Schema (Field Record NamedOnce)

variable {σ α : Type}

/-- A text writes the object of these members, in their order, with `rest` behind it. -/
def WritesObject (depth : Nat) (source : List Symbol) (entries : List (String × Value))
    (rest : List Symbol) : Prop :=
  ∃ inside, skipBlanks source = .char '\x7b' :: inside ∧
    members (value depth) (inside.length + 1) [] inside = .ok (entries, rest)

/-- A text writes the list of these items, with `rest` behind it. -/
def WritesList (depth : Nat) (source : List Symbol) (values : List Value) (rest : List Symbol) : Prop :=
  ∃ inside, skipBlanks source = .char '[' :: inside ∧
    items (value depth) (inside.length + 1) [] inside = .ok (values, rest)

/-- What a text gives for the fields of some names: an object has none of them twice, and a list has no
more items than there are names. -/
inductive Writes (depth : Nat) (names : List String) (source rest : List Symbol) :
    (String → Option Value) → Prop where
  | object {entries : List (String × Value)} (written : WritesObject depth source entries rest)
    (once : NamedOnce names entries) : Writes depth names source rest (entries.lookup ·)
  | list {values : List Value} (written : WritesList depth source values rest)
    (short : values.length ≤ names.length) :
    Writes depth names source rest ((names.zip values).lookup ·)

/-- The objects that texts write are those that the reader of values finds. -/
theorem exists_writesObject_iff {depth : Nat} {source rest : List Symbol}
    {found : List (String × Value)} :
    (∃ entries, WritesObject depth source entries rest ∧ Members.ofList entries = found) ↔
      value (depth + 1) source = .ok (.object found, rest) := by
  constructor
  · rintro ⟨entries, ⟨inside, begins, read⟩, rfl⟩
    simp [value, valueWith, begins, objectRest, read, Except.map, Value.ofEntries]
  · intro read
    obtain ⟨c, inside, begins, readAs⟩ := exists_readAs read
    cases readAs with
    | list taken =>
      obtain ⟨⟨values, _⟩, -, same⟩ := exists_of_map_eq_ok taken
      cases same
    | object taken =>
      obtain ⟨⟨entries, _⟩, read, same⟩ := exists_of_map_eq_ok taken
      cases same
      exact ⟨entries, ⟨inside, begins, read⟩, rfl⟩

/-- A field of a text takes what a field of a value takes. -/
structure Slot.Mirrors (depth : Nat) (slot : Slot σ) (field : Field Value σ) : Prop where
  name : slot.name = field.name
  isOptional : slot.isOptional = field.isOptional
  fill : ∀ {gathered next : σ} {input rest : List Symbol} {content : Value},
    value depth input = .ok (content, rest) → field.fill gathered content = .ok next →
    slot.fill gathered input = .ok (next, rest)

/-- The fields of a text, and those of a value; a field is filled by its own value only. -/
structure RecordShape.Mirrors (depth : Nat) (shape : RecordShape σ α) (record : Record Value σ α) :
    Prop where
  slots : List.Forall₂ (Slot.Mirrors depth) shape.slots record.fields
  empty : shape.empty = record.empty
  make : shape.make = record.make
  unfilled : ∀ slot ∈ shape.slots, slot.isFilled shape.empty = false
  filled : ∀ slot ∈ shape.slots, ∀ field ∈ record.fields, ∀ {gathered next : σ} {content : Value},
    field.fill gathered content = .ok next → slot.isFilled next = true →
    slot.isFilled gathered = true ∨ slot.name = field.name

/-- A field that reads what it decodes, and replaces the same part. -/
theorem Slot.Mirrors.of_replacing {β : Type} {depth : Nat} {slot : Slot σ} {name : String}
    {isOptional : Bool} {decode : Value → Except Schema.Misfit β} {replace : σ → β → σ}
    {reader : Reader β}
    (same : slot = ⟨name, slot.isFilled, fun gathered input =>
      (reader input).map fun (content, rest) => (replace gathered content, rest), isOptional⟩)
    (reads : ∀ {input rest : List Symbol} {content : Value} {decoded : β},
      value depth input = .ok (content, rest) → decode content = .ok decoded →
      reader input = .ok (decoded, rest)) :
    slot.Mirrors depth (.replacing name isOptional decode replace) := by
  rw [same]
  refine ⟨rfl, rfl, fun taken filled => ?_⟩
  obtain ⟨decoded, accepted, rfl⟩ := Field.fill_replacing.mp filled
  simp only [reads taken accepted]
  rfl

theorem items_keeps {item : Reader Value} {bound : Nat} {before all : List Value}
    {input rest : List Symbol} (read : items item bound before input = .ok (all, rest)) :
    before.reverse <+: all := by
  induction bound generalizing before input with
  | zero => cases read
  | succ bound inductionHypothesis =>
    obtain ⟨rfl, -⟩ | ⟨start, content, behind, -, -, read⟩ := items_cases read
    · exact List.prefix_refl _
    · have later := inductionHypothesis read
      rw [List.reverse_cons] at later
      exact (List.prefix_append _ _).trans later

theorem members_keeps {member : Reader Value} {bound : Nat} {before all : List (String × Value)}
    {input rest : List Symbol} (read : members member bound before input = .ok (all, rest)) :
    before.reverse <+: all := by
  induction bound generalizing before input with
  | zero => cases read
  | succ bound inductionHypothesis =>
    obtain ⟨rfl, -⟩ | ⟨key, behind, start, content, others, -, -, -, read⟩ := members_cases read
    · exact List.prefix_refl _
    · have later := inductionHypothesis read
      rw [List.reverse_cons] at later
      exact (List.prefix_append _ _).trans later

/-- An entry that has been read is the next of those to come. -/
theorem exists_cons_of_longer {β : Type} {before entries : List β} {entry : β}
    (longer : (entry :: before).reverse <+: before.reverse ++ entries) :
    ∃ later, entries = entry :: later ∧
      before.reverse ++ entries = (entry :: before).reverse ++ later := by
  obtain ⟨later, same⟩ := longer
  refine ⟨later, ?_, same.symm⟩
  rw [List.reverse_cons, List.append_assoc, List.append_cancel_left_eq] at same
  exact same.symm

theorem exists_of_bind_eq_ok {ε β γ : Type} {outcome : Except ε β} {next : β → Except ε γ}
    {last : γ} (bound : outcome >>= next = .ok last) :
    ∃ value, outcome = .ok value ∧ next value = .ok last := by
  cases outcome with
  | error fault => cases bound
  | ok value => exact ⟨value, rfl, bound⟩

namespace RecordShape.Mirrors

variable {depth : Nat} {shape : RecordShape σ α} {record : Record Value σ α}

theorem find? {slots : List (Slot σ)} {fields : List (Field Value σ)}
    (mirrors : List.Forall₂ (Slot.Mirrors depth) slots fields) (key : String) :
    (slots.find? (·.name == key) = none ∧ fields.find? (·.name == key) = none) ∨
      ∃ slot field, slots.find? (·.name == key) = some slot ∧
        fields.find? (·.name == key) = some field ∧ slot.Mirrors depth field := by
  induction mirrors with
  | nil => exact .inl ⟨rfl, rfl⟩
  | cons mirror others inductionHypothesis =>
    rename_i slot field slots fields
    by_cases named : field.name = key
    · exact .inr ⟨slot, field, by simp [mirror.name, named], by simp [named], mirror⟩
    · simpa [mirror.name, named] using inductionHypothesis

/-- Members that fit the fields are gathered in step with the reader of objects. -/
theorem objectFields (mirrors : shape.Mirrors depth record) {bound : Nat}
    {before entries : List (String × Value)} {input rest : List Symbol} {gathered last : σ}
    (read : members (value depth) bound before input = .ok (before.reverse ++ entries, rest))
    (once : NamedOnce record.names entries)
    (vacant : ∀ slot ∈ shape.slots, slot.isFilled gathered = true →
      ∀ entry ∈ entries, entry.1 ≠ slot.name)
    (fills : entries.foldlM record.fillEntry gathered = .ok last) :
    ∃ place, shape.objectFields bound before.isEmpty gathered input = .ok (last, place) ∧
      skipBlanks place = .char '\x7d' :: rest := by
  induction bound generalizing before entries input gathered with
  | zero => cases read
  | succ bound inductionHypothesis =>
    rw [RecordShape.objectFields]
    obtain ⟨same, ended, ends⟩ | ⟨key, behind, start, content, others, found, passed, taken, read⟩ :=
      members_cases read
    · obtain rfl : entries = [] := List.append_right_eq_self.mp same
      cases fills
      exact ⟨input, by rw [ended], ends⟩
    · obtain ⟨later, rfl, same⟩ := exists_cons_of_longer (members_keeps read)
      rw [same] at read
      obtain ⟨next, filled, fills⟩ := exists_of_bind_eq_ok fills
      rw [Record.fillEntry] at filled
      rw [found]
      dsimp only
      obtain ⟨noSlot, noField⟩ | ⟨slot, field, slotFound, fieldFound, mirror⟩ :=
        Mirrors.find? mirrors.slots key
      · have skipped : (colon behind >>= skipValue) = .ok others := by
          rw [passed]
          exact skipValue_of_value taken
        rw [noField] at filled
        cases filled
        rw [noSlot]
        simp only [skipped]
        exact inductionHypothesis read once.tail
          (fun slot present filled entry later => vacant slot present filled entry
            (List.mem_cons_of_mem _ later)) fills
      · have named : slot.name = key := by simpa using List.find?_some slotFound
        have slotMem := List.mem_of_find?_eq_some slotFound
        have fieldMem := List.mem_of_find?_eq_some fieldFound
        -- a slot that is filled already would be a second member of its name
        have unfilled : slot.isFilled gathered = false := by
          rw [Bool.eq_false_iff]
          exact fun filled => vacant slot slotMem filled _ List.mem_cons_self named.symm
        have known : key ∈ record.names :=
          List.mem_map.mpr ⟨field, fieldMem, mirror.name.symm.trans named⟩
        rw [fieldFound] at filled
        have taken : (colon behind >>= slot.fill gathered) = .ok (next, others) := by
          rw [passed]
          exact mirror.fill taken filled
        rw [slotFound]
        simp only [unfilled, taken]
        refine inductionHypothesis read once.tail (fun other present isFilled entry later => ?_) fills
        rcases mirrors.filled other present field fieldMem filled isFilled with before | same
        · exact vacant other present before entry (List.mem_cons_of_mem _ later)
        · rw [same, ← mirror.name, named]
          exact once.not_mem_tail known entry later

/-- Behind the last item, fields that are optional stay as they are. -/
theorem listFields_of_end (shape : RecordShape σ α) {input rest : List Symbol}
    (ends : skipBlanks input = .char ']' :: rest) (place : Nat) (gathered : σ) {slots : List (Slot σ)}
    (optional : ∀ slot ∈ slots, slot.isOptional = true) :
    shape.listFields place gathered input slots = .ok (gathered, input) := by
  have ended (isFirst : Bool) : nextItem? isFirst input = .ok none := by simp [nextItem?, ends]
  induction slots generalizing place with
  | nil => rw [RecordShape.listFields]
  | cons slot slots inductionHypothesis =>
    rw [RecordShape.listFields, ended]
    simp only [optional slot List.mem_cons_self, if_true]
    exact inductionHypothesis (place + 1) fun slot present =>
      optional slot (List.mem_cons_of_mem _ present)

theorem optional_of_mirrors {slots : List (Slot σ)} {fields : List (Field Value σ)}
    (mirrors : List.Forall₂ (Slot.Mirrors depth) slots fields)
    (optional : ∀ field ∈ fields, field.isOptional = true) :
    ∀ slot ∈ slots, slot.isOptional = true := by
  induction mirrors with
  | nil => simp
  | cons mirror others inductionHypothesis =>
    rw [List.forall_mem_cons] at optional ⊢
    exact ⟨mirror.isOptional.trans optional.1, inductionHypothesis optional.2⟩

/-- Items that fit the fields are gathered in step with the reader of lists. -/
theorem listFields (shape : RecordShape σ α) {slots : List (Slot σ)}
    {fields : List (Field Value σ)} (mirrors : List.Forall₂ (Slot.Mirrors depth) slots fields)
    {bound : Nat} {before values : List Value} {input rest : List Symbol} {gathered last : σ}
    (read : items (value depth) bound before input = .ok (before.reverse ++ values, rest))
    (short : values.length ≤ fields.length)
    (fills : record.fillItems before.length gathered fields values = .ok last) :
    ∃ place, shape.listFields before.length gathered input slots = .ok (last, place) ∧
      skipBlanks place = .char ']' :: rest := by
  induction mirrors generalizing bound before values input gathered with
  | nil =>
    cases bound with
    | zero => cases read
    | succ bound =>
      obtain rfl : values = [] := List.eq_nil_of_length_eq_zero (Nat.le_zero.mp short)
      obtain ⟨-, -, ends⟩ | ⟨start, content, behind, -, -, read⟩ := items_cases read
      · cases fills
        exact ⟨input, by rw [RecordShape.listFields], ends⟩
      · obtain ⟨later, impossible, -⟩ := exists_cons_of_longer (items_keeps read)
        cases impossible
  | cons mirror others inductionHypothesis =>
    rename_i slot field slots fields
    cases bound with
    | zero => cases read
    | succ bound =>
      obtain ⟨same, -, ends⟩ | ⟨start, content, behind, found, taken, read⟩ := items_cases read
      · obtain rfl : values = [] := List.append_right_eq_self.mp same
        obtain ⟨optional, rfl⟩ := (record.fillItems_nil ..).mp fills
        exact ⟨input, listFields_of_end shape ends _ _
          (optional_of_mirrors (.cons mirror others) optional), ends⟩
      · obtain ⟨later, rfl, same⟩ := exists_cons_of_longer (items_keeps read)
        rw [same] at read
        rw [Record.fillItems] at fills
        split at fills
        · rename_i next filled
          have isFirst : (before.length == 0) = before.isEmpty := by cases before <;> rfl
          rw [RecordShape.listFields, isFirst, found]
          simp only [mirror.fill taken filled]
          exact inductionHypothesis read (Nat.le_of_succ_le_succ short) fills
        · cases fills

theorem endOfList_of_end {input rest : List Symbol} (ends : skipBlanks input = .char ']' :: rest) :
    endOfList input = .ok rest := by
  simp [endOfList, ends]

/-- What a text gives for the fields is read as the record that is made of it. -/
theorem read (mirrors : shape.Mirrors depth record) (lawful : record.Lawful)
    {source rest : List Symbol} {find : String → Option Value} {made : α}
    (written : Writes depth record.names source rest find) (built : record.build find = some made) :
    shape.read source = .ok (made, rest) := by
  obtain ⟨last, supplied, accepted⟩ := Record.build_eq_some_iff.mp built
  have closes (atEnd) (place : List Symbol) : shape.close atEnd last place = .ok made := by
    rw [close, mirrors.make, accepted]
  cases written with
  | object written once =>
    rename_i entries
    obtain ⟨inside, begins, taken⟩ := written
    have fills : entries.foldlM record.fillEntry shape.empty = .ok last := by
      rw [mirrors.empty]
      exact Schema.toOption_eq_some_iff.mp ((lawful.toOption_foldlM once _).trans supplied)
    have taken : members (value depth) (inside.length + 1) [] inside =
        .ok (([] : List (String × Value)).reverse ++ entries, rest) := taken
    obtain ⟨place, gathered, ends⟩ := mirrors.objectFields taken once
      (fun slot present filled => absurd filled (by simp [mirrors.unfilled slot present])) fills
    rw [List.isEmpty_nil] at gathered
    have behind : closing place = rest := by rw [closing, ends, List.drop_one, List.tail_cons]
    simp [RecordShape.read, begins, opening?, objectRest, gathered, closes, behind, Except.map]
  | list written short =>
    rename_i values
    obtain ⟨inside, begins, taken⟩ := written
    have width : record.names.length = record.fields.length := List.length_map ..
    have fills : record.fillItems 0 shape.empty record.fields values = .ok last := by
      rw [mirrors.empty, record.fillItems_eq_ok_iff 0 _ lawful.distinct]
      exact ⟨lawful.needed _ made built, supplied⟩
    have taken : items (value depth) (inside.length + 1) [] inside =
        .ok (([] : List Value).reverse ++ values, rest) := taken
    obtain ⟨place, gathered, ends⟩ := listFields shape mirrors.slots taken (width ▸ short) fills
    rw [List.length_nil] at gathered
    simp [RecordShape.read, begins, opening?, listRest, gathered, closes, endOfList_of_end ends,
      Except.map]

end RecordShape.Mirrors
end Dashboard.Json
