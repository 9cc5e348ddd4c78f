import Dashboard.Proofs.Toml.Float
import Dashboard.Toml.Document

namespace Dashboard.Toml

/-- What is read as a value that is no collection is read as a value. -/
theorem value_of_scalar {input : List Char} {read : Value × List Char} (found : scalar input = some read)
    (depth : Nat) : value depth input = some read := by
  cases depth with
  | zero => exact found
  | succ depth =>
    simp only [value]
    split
    · simp [scalar] at found
    · simp [scalar] at found
    · exact found

theorem skipBlanks_of_scalar {input : List Char} {read : Value × List Char}
    (found : scalar input = some read) : skipBlanks input = input := by
  cases input with
  | nil => rfl
  | cons c rest =>
    have noBlank : isBlank c = false := by
      apply Bool.eq_false_iff.mpr
      intro blank
      simp only [isBlank, Bool.or_eq_true, beq_iff_eq] at blank
      rcases blank with rfl | rfl <;> simp [scalar] at found
    simp [skipBlanks, noBlank]

structure IsBareName (name : String) : Prop where
  bare : ∀ c ∈ name.toList, isBare c = true
  present : name.toList ≠ []

instance (name : String) : Decidable (IsBareName name) :=
  decidable_of_iff (name.toList.all isBare = true ∧ name.toList ≠ [])
    ⟨fun ⟨bare, present⟩ => ⟨List.all_eq_true.mp bare, present⟩,
      fun ⟨bare, present⟩ => ⟨List.all_eq_true.mpr bare, present⟩⟩

theorem bare_facts {c : Char} (bare : isBare c = true) :
    isBlank c = false ∧ c ≠ '"' ∧ c ≠ '\'' ∧ c ≠ '[' ∧ c ≠ '#' ∧ c ≠ '\n' ∧ c ≠ '\r' := by
  refine ⟨?_, ?_, ?_, ?_, ?_, ?_, ?_⟩
  · apply Bool.eq_false_iff.mpr
    intro blank
    simp only [isBlank, Bool.or_eq_true, beq_iff_eq] at blank
    rcases blank with rfl | rfl <;> cases bare
  all_goals
    rintro rfl
    cases bare

theorem skipBlanks_bare {c : Char} (bare : isBare c = true) (rest : List Char) :
    skipBlanks (c :: rest) = c :: rest := by
  simp [skipBlanks, (bare_facts bare).1]

theorem simpleKey_append {name : String} (bareName : IsBareName name) {mark : Char}
    (other : isBare mark = false) (rest : List Char) :
    simpleKey (name.toList ++ mark :: rest) = some (name, mark :: rest) := by
  have stops : ∀ c, (mark :: rest).head? = some c → isBare c = false := by simpa using other
  have taken := takeWhile_front bareName.bare stops
  have left := dropWhile_front bareName.bare stops
  obtain ⟨c, others, shape⟩ := List.exists_cons_of_ne_nil bareName.present
  obtain ⟨-, noQuote, noLiteral, -⟩ := bare_facts (bareName.bare c (by simp [shape]))
  have back : String.ofList (c :: others) = name := by rw [← shape, String.ofList_toList]
  rw [shape, List.cons_append] at taken left ⊢
  unfold simpleKey
  split
  · rename_i same
    exact absurd (List.cons.inj same).1 noQuote
  · rename_i same
    exact absurd (List.cons.inj same).1 noLiteral
  · rw [taken, left]
    simp only [back]

/-- A name in front of something that is neither a part of it nor a dot. -/
theorem keys_append {name : String} (bareName : IsBareName name) {mark : Char} {rest more : List Char}
    (other : isBare mark = false) (behind : skipBlanks (mark :: rest) = more)
    (noDot : more.head? ≠ some '.') :
    keys (name.toList ++ mark :: rest) = some ([name], more) := by
  have read := simpleKey_append bareName other rest
  obtain ⟨c, others, shape⟩ := List.exists_cons_of_ne_nil bareName.present
  have front : skipBlanks (name.toList ++ mark :: rest) = name.toList ++ mark :: rest := by
    rw [shape, List.cons_append]
    exact skipBlanks_bare (bareName.bare c (by simp [shape])) _
  rw [keys, depthLimit, keysUpTo, front, read]
  simp only [Option.bind_eq_bind, Option.bind_some, behind]
  split
  · exact absurd rfl noDot
  · rfl

theorem statement_line {key : String} {value : Value} {text : List Char} (bareKey : IsBareName key)
    (readBack : IsReadBack value) (written : scalarText? value = some text) (rest : List Char) :
    statement (line key text ++ rest) = some (.assign [key] value, '\n' :: rest) := by
  have ends : GoesOnWith endings ('\n' :: rest) := goesOnWith_cons (by decide) rest
  have found := scalar_scalarText readBack written ends
  have named : keys (key.toList ++ ' ' :: '=' :: ' ' :: (text ++ '\n' :: rest)) =
      some ([key], '=' :: ' ' :: (text ++ '\n' :: rest)) :=
    keys_append bareKey (by decide) rfl (by simp)
  have shape : line key text ++ rest = key.toList ++ ' ' :: '=' :: ' ' :: (text ++ '\n' :: rest) := by
    simp [line]
  have blank : skipBlanks (' ' :: (text ++ '\n' :: rest)) = text ++ '\n' :: rest :=
    skipBlanks_of_scalar found
  obtain ⟨c, others, front⟩ := List.exists_cons_of_ne_nil bareKey.present
  obtain ⟨-, -, -, noBracket, -⟩ := bare_facts (bareKey.bare c (by simp [front]))
  rw [shape]
  rw [front, List.cons_append] at named ⊢
  unfold statement
  split
  · rename_i same
    exact absurd (List.cons.inj same).1 noBracket
  · rename_i same
    exact absurd (List.cons.inj same).1 noBracket
  · rw [named]
    simp only [Option.bind_eq_bind, Option.bind_some, take?, if_true]
    rw [blank, value_of_scalar found]
    rfl

theorem statement_headerLine {name : String} (bareName : IsBareName name) (rest : List Char) :
    statement (headerLine name ++ rest) = some (.header [name], '\n' :: rest) := by
  have named : keys (name.toList ++ ']' :: '\n' :: rest) = some ([name], ']' :: '\n' :: rest) :=
    keys_append bareName (by decide) rfl (by simp)
  have shape : headerLine name ++ rest = '[' :: (name.toList ++ ']' :: '\n' :: rest) := by
    simp [headerLine]
  obtain ⟨c, others, front⟩ := List.exists_cons_of_ne_nil bareName.present
  obtain ⟨-, -, -, noBracket, -⟩ := bare_facts (bareName.bare c (by simp [front]))
  rw [shape]
  rw [front, List.cons_append] at named ⊢
  unfold statement
  split
  · rename_i same
    exact absurd (List.cons.inj (List.cons.inj same).2).1 noBracket
  · rename_i behind _ same
    obtain rfl := (List.cons.inj same).2
    rw [named]
    rfl
  · rename_i unmatched
    exact absurd rfl (unmatched _)

/-- A statement on a line of its own is read, and the lines behind it are left. -/
theorem statements_statement {text rest : List Char} {found : Statement} {bound : Nat} {c : Char}
    (read : List Statement) (front : text.head? = some c)
    (starts : isBlank c = false ∧ c ≠ '#' ∧ c ≠ '\n' ∧ c ≠ '\r')
    (taken : statement (text ++ rest) = some (found, '\n' :: rest))
    (enough : (text ++ rest).length < bound) :
    ∃ fewer, rest.length < fewer ∧
      statements bound read (text ++ rest) = statements fewer (found :: read) rest := by
  obtain ⟨fewer, rfl⟩ : ∃ fewer, bound = fewer + 1 := ⟨bound - 1, by omega⟩
  obtain ⟨others, rfl⟩ : ∃ others, text = c :: others := by
    cases text with
    | nil => cases front
    | cons first others => exact ⟨others, by rw [Option.some.inj front]⟩
  obtain ⟨noBlank, noComment, noBreak, noReturn⟩ := starts
  refine ⟨fewer, ?_, ?_⟩
  · simp only [List.length_append, List.length_cons] at enough
    omega
  · have unskipped : skipBlanks (c :: (others ++ rest)) = c :: (others ++ rest) := by
      simp [skipBlanks, noBlank]
    have ended : endOfLine? ('\n' :: rest) = some rest := rfl
    rw [List.cons_append] at taken ⊢
    simp only [statements, unskipped, taken, noComment, noBreak, noReturn, decide_false,
      Bool.or_self, Bool.false_eq_true, if_false, Option.bind_eq_bind, Option.bind_some, ended]

theorem statements_blank {rest : List Char} {bound : Nat} (read : List Statement)
    (enough : ('\n' :: rest).length < bound) :
    ∃ fewer, rest.length < fewer ∧ statements bound read ('\n' :: rest) = statements fewer read rest := by
  obtain ⟨fewer, rfl⟩ : ∃ fewer, bound = fewer + 1 := ⟨bound - 1, by omega⟩
  exact ⟨fewer, by simpa using enough, rfl⟩

/-- Names that need no quotes, for values that are read back. -/
structure IsPlainSection (fields : List (String × Value)) : Prop where
  bare : ∀ field ∈ fields, IsBareName field.1
  readBack : ∀ field ∈ fields, IsReadBack field.2
  distinct : (fields.map Prod.fst).Nodup

def assignment (field : String × Value) : Statement := .assign [field.1] field.2

theorem statements_lines {fields : List (String × Value)} {text rest : List Char} {bound : Nat}
    (read : List Statement) (bare : ∀ field ∈ fields, IsBareName field.1)
    (readBack : ∀ field ∈ fields, IsReadBack field.2) (written : lines? fields = some text)
    (enough : (text ++ rest).length < bound) :
    ∃ fewer, rest.length < fewer ∧ statements bound read (text ++ rest) =
      statements fewer ((fields.map assignment).reverse ++ read) rest := by
  induction fields generalizing text bound read with
  | nil =>
    obtain rfl := Option.some.inj written
    exact ⟨bound, enough, rfl⟩
  | cons field fields inductionHypothesis =>
    obtain ⟨key, value⟩ := field
    rw [lines?] at written
    obtain ⟨valueText, valueWritten, written⟩ := Option.bind_eq_some_iff.mp written
    obtain ⟨others, othersWritten, written⟩ := Option.bind_eq_some_iff.mp written
    obtain rfl := Option.some.inj written
    have bareKey := bare (key, value) List.mem_cons_self
    obtain ⟨c, more, front⟩ := List.exists_cons_of_ne_nil bareKey.present
    obtain ⟨noBlank, -, -, -, noComment, noBreak, noReturn⟩ :=
      bare_facts (bareKey.bare c (by simp [front]))
    rw [List.append_assoc] at enough ⊢
    obtain ⟨fewer, enough, first⟩ := statements_statement (c := c) read
      (by simp [line, front]) ⟨noBlank, noComment, noBreak, noReturn⟩
      (statement_line bareKey (readBack (key, value) List.mem_cons_self) valueWritten (others ++ rest))
      enough
    obtain ⟨fewer, enough, behind⟩ := inductionHypothesis (.assign [key] value :: read)
      (fun field member => bare field (List.mem_cons_of_mem _ member))
      (fun field member => readBack field (List.mem_cons_of_mem _ member)) othersWritten enough
    refine ⟨fewer, enough, ?_⟩
    rw [first, behind]
    simp [assignment]

def sectionStatements (entry : String × List (String × Value)) : List Statement :=
  .header [entry.1] :: entry.2.map assignment

theorem statements_section {name : String} {fields : List (String × Value)} {text rest : List Char}
    {bound : Nat} (read : List Statement) (bareName : IsBareName name)
    (bare : ∀ field ∈ fields, IsBareName field.1)
    (readBack : ∀ field ∈ fields, IsReadBack field.2) (written : lines? fields = some text)
    (enough : (headerLine name ++ (text ++ rest)).length < bound) :
    ∃ fewer, rest.length < fewer ∧ statements bound read (headerLine name ++ (text ++ rest)) =
      statements fewer ((sectionStatements (name, fields)).reverse ++ read) rest := by
  obtain ⟨fewer, enough, first⟩ := statements_statement (c := '[') read rfl
    (by decide) (statement_headerLine bareName (text ++ rest)) enough
  obtain ⟨fewer, enough, behind⟩ := statements_lines (.header [name] :: read) bare readBack written
    enough
  refine ⟨fewer, enough, ?_⟩
  rw [first, behind]
  simp [sectionStatements]

theorem statements_end {bound : Nat} (read : List Statement) (enough : 0 < bound) :
    statements bound read [] = some read.reverse := by
  obtain ⟨fewer, rfl⟩ : ∃ fewer, bound = fewer + 1 := ⟨bound - 1, by omega⟩
  rfl

theorem statements_sections {document : List (String × List (String × Value))} {text : List Char}
    {bound : Nat} (read : List Statement) (bareNames : ∀ entry ∈ document, IsBareName entry.1)
    (plain : ∀ entry ∈ document, IsPlainSection entry.2) (written : sections? document = some text)
    (enough : text.length < bound) :
    statements bound read text = some (read.reverse ++ document.flatMap sectionStatements) := by
  induction document generalizing text bound read with
  | nil =>
    obtain rfl := Option.some.inj written
    rw [statements_end read enough]
    simp
  | cons entry document inductionHypothesis =>
    obtain ⟨name, fields⟩ := entry
    have bareName := bareNames (name, fields) List.mem_cons_self
    obtain ⟨bare, readBack, -⟩ := plain (name, fields) List.mem_cons_self
    rw [sections?.eq_def] at written
    obtain ⟨own, ownWritten, written⟩ := Option.bind_eq_some_iff.mp written
    -- behind the last section nothing follows, behind every other one a blank line
    cases document with
    | nil =>
      obtain rfl := Option.some.inj written
      rw [← List.append_nil own] at enough ⊢
      obtain ⟨fewer, enough, first⟩ := statements_section read bareName bare readBack ownWritten
        enough
      rw [first, statements_end _ (by omega)]
      simp
    | cons next others =>
      obtain ⟨behind, behindWritten, written⟩ := Option.bind_eq_some_iff.mp written
      obtain rfl := Option.some.inj written
      rw [List.append_assoc] at enough ⊢
      obtain ⟨fewer, enough, first⟩ := statements_section read bareName bare readBack ownWritten
        enough
      obtain ⟨fewer, enough, blank⟩ :=
        statements_blank ((sectionStatements (name, fields)).reverse ++ read) enough
      have readOn := inductionHypothesis ((sectionStatements (name, fields)).reverse ++ read)
        (fun entry member => bareNames entry (List.mem_cons_of_mem _ member))
        (fun entry member => plain entry (List.mem_cons_of_mem _ member)) behindWritten enough
      rw [first, blank, readOn]
      simp

theorem lines?_isSome {fields : List (String × Value)}
    (writable : ∀ field ∈ fields, (scalarText? field.2).isSome = true) :
    (lines? fields).isSome = true := by
  induction fields with
  | nil => rfl
  | cons field fields inductionHypothesis =>
    obtain ⟨text, written⟩ := Option.isSome_iff_exists.mp (writable field List.mem_cons_self)
    obtain ⟨others, othersWritten⟩ := Option.isSome_iff_exists.mp
      (inductionHypothesis fun other member => writable other (List.mem_cons_of_mem _ member))
    simp [lines?, written, othersWritten]

theorem sections?_isSome {document : List (String × List (String × Value))}
    (writable : ∀ entry ∈ document, ∀ field ∈ entry.2, (scalarText? field.2).isSome = true) :
    (sections? document).isSome = true := by
  induction document with
  | nil => rfl
  | cons entry document inductionHypothesis =>
    obtain ⟨own, ownWritten⟩ := Option.isSome_iff_exists.mp
      (lines?_isSome (writable entry List.mem_cons_self))
    obtain ⟨others, othersWritten⟩ := Option.isSome_iff_exists.mp
      (inductionHypothesis fun other member => writable other (List.mem_cons_of_mem _ member))
    rw [sections?.eq_def]
    cases document with
    | nil => simp [ownWritten]
    | cons next document => simp [ownWritten, othersWritten]

theorem lines?_eq_none {fields : List (String × Value)} {field : String × Value}
    (member : field ∈ fields) (unwritable : scalarText? field.2 = none) : lines? fields = none := by
  induction fields with
  | nil => cases member
  | cons first fields inductionHypothesis =>
    rw [lines?]
    rcases List.mem_cons.mp member with rfl | behind
    · simp [unwritable]
    · simp [inductionHypothesis behind]

theorem sections?_eq_none {document : List (String × List (String × Value))}
    {entry : String × List (String × Value)} {field : String × Value} (member : entry ∈ document)
    (inside : field ∈ entry.2) (unwritable : scalarText? field.2 = none) :
    sections? document = none := by
  induction document with
  | nil => cases member
  | cons first document inductionHypothesis =>
    rw [sections?.eq_def]
    rcases List.mem_cons.mp member with rfl | behind
    · simp [lines?_eq_none inside unwritable]
    · cases document with
      | nil => cases behind
      | cons next document => simp [inductionHypothesis behind]

/-- The fields of a section, in a table that grows. -/
def fieldNodes (fields : List (String × Value)) : List (String × Node) :=
  fields.map fun field => (field.1, .value field.2)

/-- The sections, in a table that grows. -/
def sectionNodes (document : List (String × List (String × Value))) : List (String × Node) :=
  document.map fun entry => (entry.1, .table ⟨false, false⟩ (fieldNodes entry.2))

theorem fieldNodes_append (before : List (String × Value)) (field : String × Value) :
    fieldNodes (before ++ [field]) = fieldNodes before ++ [(field.1, .value field.2)] :=
  List.map_append

theorem sectionNodes_append (before : List (String × List (String × Value)))
    (entry : String × List (String × Value)) : sectionNodes (before ++ [entry]) =
      sectionNodes before ++ [(entry.1, .table ⟨false, false⟩ (fieldNodes entry.2))] :=
  List.map_append

/-- A name that comes once is not there before its place. -/
theorem not_mem_of_distinct {α : Type} {before behind : List (String × α)} {entry : String × α}
    (distinct : ((before ++ entry :: behind).map Prod.fst).Nodup) :
    entry.1 ∉ before.map Prod.fst := by
  intro member
  rw [List.map_append, List.nodup_append] at distinct
  exact distinct.2.2 entry.1 member entry.1 (by simp) rfl

theorem lookup_map_of_not_mem {α β : Type} (f : α → β) {entries : List (String × α)} {key : String}
    (fresh : key ∉ entries.map Prod.fst) :
    (entries.map fun entry => (entry.1, f entry.2)).lookup key = none := by
  rw [List.lookup_eq_none_iff]
  intro mapped member
  obtain ⟨entry, present, rfl⟩ := List.mem_map.mp member
  apply bne_iff_ne.mpr
  rintro rfl
  exact fresh (List.mem_map_of_mem present)

namespace Builder

/-- An assignment of a new key goes to the current table. -/
theorem step_assignment {builder : Builder} {before : List (String × Value)} {field : String × Value}
    (growing : builder.current = ⟨⟨false, false⟩, fieldNodes before⟩)
    (fresh : field.1 ∉ before.map Prod.fst) :
    builder.step (assignment field) =
      some { builder with current := ⟨⟨false, false⟩, fieldNodes (before ++ [field])⟩ } := by
  have absent : (fieldNodes before).lookup field.1 = none := lookup_map_of_not_mem _ fresh
  simp [step, assignment, splitLast, Table.assign, Table.alter, growing, absent, fieldNodes_append]

theorem foldlM_assignments {builder : Builder} (before : List (String × Value))
    {fields : List (String × Value)}
    (growing : builder.current = ⟨⟨false, false⟩, fieldNodes before⟩)
    (distinct : ((before ++ fields).map Prod.fst).Nodup) :
    (fields.map assignment).foldlM step builder =
      some { builder with current := ⟨⟨false, false⟩, fieldNodes (before ++ fields)⟩ } := by
  induction fields generalizing builder before with
  | nil =>
    rw [List.append_nil, ← growing]
    rfl
  | cons field fields inductionHypothesis =>
    have fresh := not_mem_of_distinct distinct
    have split : before ++ field :: fields = before ++ [field] ++ fields := by simp
    rw [split] at distinct ⊢
    rw [List.map_cons, List.foldlM_cons, step_assignment growing fresh]
    exact inductionHypothesis (before ++ [field]) rfl distinct

/-- Once the current table is in its place, a new section follows those that are there. -/
theorem foldlM_section {builder : Builder} {before : List (String × List (String × Value))}
    {entry : String × List (String × Value)}
    (settled : builder.settle = some ⟨⟨false, false⟩, sectionNodes before⟩)
    (fresh : entry.1 ∉ before.map Prod.fst) (distinct : (entry.2.map Prod.fst).Nodup) :
    ∃ after, (sectionStatements entry).foldlM step builder = some after ∧
      after.settle = some ⟨⟨false, false⟩, sectionNodes (before ++ [entry])⟩ := by
  have absent : (sectionNodes before).lookup entry.1 = none :=
    lookup_map_of_not_mem (fun fields => Node.table ⟨false, false⟩ (fieldNodes fields)) fresh
  have opened : builder.step (.header [entry.1]) =
      some ⟨⟨⟨false, false⟩, sectionNodes before⟩, .plain, .table [] entry.1⟩ := by
    simp [step, settled, splitLast, openAt, openAt.found, Table.openTable, Table.alter, absent]
  have filled : (entry.2.map assignment).foldlM step
      ⟨⟨⟨false, false⟩, sectionNodes before⟩, .plain, .table [] entry.1⟩ =
        some ⟨⟨⟨false, false⟩, sectionNodes before⟩, ⟨⟨false, false⟩, fieldNodes entry.2⟩,
          .table [] entry.1⟩ :=
    foldlM_assignments [] rfl distinct
  refine ⟨⟨⟨⟨false, false⟩, sectionNodes before⟩, ⟨⟨false, false⟩, fieldNodes entry.2⟩,
    .table [] entry.1⟩, ?_, ?_⟩
  · rw [sectionStatements, List.foldlM_cons, opened]
    exact filled
  · simp [settle, Table.alter, enter, absent, sectionNodes_append]

theorem foldlM_sections {builder : Builder} (before : List (String × List (String × Value)))
    {document : List (String × List (String × Value))}
    (settled : builder.settle = some ⟨⟨false, false⟩, sectionNodes before⟩)
    (distinct : ((before ++ document).map Prod.fst).Nodup)
    (fields : ∀ entry ∈ document, (entry.2.map Prod.fst).Nodup) :
    ∃ after, (document.flatMap sectionStatements).foldlM step builder = some after ∧
      after.settle = some ⟨⟨false, false⟩, sectionNodes (before ++ document)⟩ := by
  induction document generalizing builder before with
  | nil => exact ⟨builder, rfl, by rwa [List.append_nil]⟩
  | cons entry document inductionHypothesis =>
    have fresh := not_mem_of_distinct distinct
    have split : before ++ entry :: document = before ++ [entry] ++ document := by simp
    rw [split] at distinct ⊢
    obtain ⟨next, first, nextSettled⟩ := foldlM_section settled fresh
      (fields entry List.mem_cons_self)
    obtain ⟨after, behind, afterSettled⟩ := inductionHypothesis (before ++ [entry]) nextSettled distinct
      fun other member => fields other (List.mem_cons_of_mem _ member)
    refine ⟨after, ?_, afterSettled⟩
    rw [List.flatMap_cons, List.foldlM_append, first]
    exact behind

end Builder

theorem ofEntries_fieldNodes (fields : List (String × Value)) :
    Table.ofEntries (fieldNodes fields) = fields := by
  induction fields with
  | nil => rfl
  | cons field fields inductionHypothesis =>
    rw [fieldNodes, List.map_cons, Table.ofEntries]
    exact congrArg (field :: ·) inductionHypothesis

theorem ofEntries_sectionNodes (document : List (String × List (String × Value))) :
    Table.ofEntries (sectionNodes document) =
      document.map fun entry => (entry.1, .table entry.2) := by
  induction document with
  | nil => rfl
  | cons entry document inductionHypothesis =>
    rw [sectionNodes, List.map_cons, Table.ofEntries, Table.ofNode, ofEntries_fieldNodes]
    exact congrArg ((entry.1, Value.table entry.2) :: ·) inductionHypothesis

/-- The text of sections starts with a bracket, if there is any. -/
theorem head_sections {document : List (String × List (String × Value))} {text : List Char} {c : Char}
    (written : sections? document = some text) (front : text.head? = some c) : c = '[' := by
  cases document with
  | nil =>
    obtain rfl := Option.some.inj written
    cases front
  | cons entry document =>
    rw [sections?.eq_def] at written
    obtain ⟨own, -, written⟩ := Option.bind_eq_some_iff.mp written
    cases document with
    | nil =>
      obtain rfl := Option.some.inj written
      exact (Option.some.inj front).symm
    | cons next others =>
      obtain ⟨behind, -, written⟩ := Option.bind_eq_some_iff.mp written
      obtain rfl := Option.some.inj written
      exact (Option.some.inj front).symm

/-- Sections that can be written are read back, each as a table of its fields. -/
theorem parse_sections {document : List (String × List (String × Value))} {text : List Char}
    (bareNames : ∀ entry ∈ document, IsBareName entry.1) (distinct : (document.map Prod.fst).Nodup)
    (plain : ∀ entry ∈ document, IsPlainSection entry.2) (written : sections? document = some text) :
    parse (String.ofList text) = some (document.map fun entry => (entry.1, .table entry.2)) := by
  have enough : text.length < text.length + 2 := by omega
  have read := statements_sections [] bareNames plain written enough
  have started : Builder.start.settle = some ⟨⟨false, false⟩, sectionNodes []⟩ := rfl
  obtain ⟨after, carriedOut, settled⟩ := Builder.foldlM_sections [] started distinct
    fun entry member => (plain entry member).distinct
  have entries : Builder.run (document.flatMap sectionStatements) =
      some (document.map fun entry => (entry.1, .table entry.2)) := by
    rw [List.nil_append] at settled
    simp [Builder.run, carriedOut, settled, Table.close, ofEntries_sectionNodes]
  rw [parse, String.toList_ofList]
  split
  · cases head_sections written (c := '\ufeff') rfl
  · rw [read]
    exact entries

end Dashboard.Toml
