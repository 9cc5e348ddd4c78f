import Dashboard.Proofs.Association
import Dashboard.Toml.Document
import Dashboard.Toml.Text

namespace Dashboard.Toml

open Association (Distinct)

inductive Value.WellFormed : Value → Prop where
  | boolean (value : Bool) : WellFormed (.boolean value)
  | integer {value : Int} (writable : isWritable value = true) : WellFormed (.integer value)
  | float (value : Float) : WellFormed (.float value)
  | string (text : String) : WellFormed (.string text)
  | datetime : WellFormed .datetime
  | array {items : List Value} (each : ∀ item ∈ items, item.WellFormed) : WellFormed (.array items)
  | table {entries : List (String × Value)} (distinct : Distinct entries)
      (each : ∀ entry ∈ entries, entry.2.WellFormed) : WellFormed (.table entries)

def YieldsWellFormed (reader : Reader Value) : Prop :=
  ∀ input found rest, reader input = some (found, rest) → found.WellFormed

theorem integer?_wellFormed {number : Int} {value : Value} (found : integer? number = some value) :
    value.WellFormed := by
  rw [integer?] at found
  split at found
  · obtain rfl := Option.some.inj found
    refine .integer ?_
    simp only [isWritable, Bool.and_eq_true, decide_eq_true_eq]
    omega
  · cases found

theorem float?_wellFormed {text : List Char} {value : Value} (found : float? text = some value) :
    value.WellFormed := by
  rw [float?] at found
  split at found
  · split at found
    · cases found
    · obtain rfl := Option.some.inj found
      exact .float _
  · cases found

/-- What every outcome of a reader's last step is, is what it reads. -/
theorem wellFormed_of_map {α : Type} {read : Option α} {f : α → Value × List Char} {value : Value}
    {rest : List Char} (each : ∀ part, (f part).1.WellFormed)
    (found : read.map f = some (value, rest)) : value.WellFormed := by
  obtain ⟨part, -, same⟩ := Option.map_eq_some_iff.mp found
  rw [← (Prod.mk.inj same).1]
  exact each part

theorem namedFloat_wellFormed (isNegative : Bool) : YieldsWellFormed (namedFloat isNegative) := by
  intro input value rest found
  simp only [namedFloat] at found
  split at found
  · obtain ⟨rfl, -⟩ := Prod.mk.inj (Option.some.inj found)
    exact .float _
  · exact wellFormed_of_map (fun _ => .float _) found

theorem decimalNumber_wellFormed : YieldsWellFormed decimalNumber := by
  intro input value rest found
  simp only [decimalNumber] at found
  split at found
  · rename_i named
    obtain rfl := Option.some.inj found
    exact namedFloat_wellFormed _ _ _ _ named
  · obtain ⟨⟨whole, behind⟩, -, found⟩ := Option.bind_eq_some_iff.mp found
    obtain ⟨⟨tail, behind⟩, -, found⟩ := Option.bind_eq_some_iff.mp found
    cases tail with
    | none =>
      obtain ⟨number, fits, same⟩ := Option.bind_eq_some_iff.mp found
      obtain ⟨rfl, -⟩ := Prod.mk.inj (Option.some.inj same)
      exact integer?_wellFormed fits
    | float text =>
      obtain ⟨number, known, same⟩ := Option.bind_eq_some_iff.mp found
      obtain ⟨rfl, -⟩ := Prod.mk.inj (Option.some.inj same)
      exact float?_wellFormed known

theorem basedNumber_wellFormed (base : Nat) : YieldsWellFormed (basedNumber base) := by
  intro input value rest found
  obtain ⟨⟨digits, behind⟩, -, found⟩ := Option.bind_eq_some_iff.mp found
  obtain ⟨number, fits, same⟩ := Option.bind_eq_some_iff.mp found
  obtain ⟨rfl, -⟩ := Prod.mk.inj (Option.some.inj same)
  exact integer?_wellFormed fits

theorem dateTime_wellFormed : YieldsWellFormed dateTime := by
  intro input value rest found
  obtain ⟨behind, -, found⟩ := Option.bind_eq_some_iff.mp found
  split at found
  · split at found
    · obtain ⟨timed, -, found⟩ := Option.bind_eq_some_iff.mp found
      obtain ⟨zoned, -, same⟩ := Option.bind_eq_some_iff.mp found
      obtain ⟨rfl, -⟩ := Prod.mk.inj (Option.some.inj same)
      exact .datetime
    · obtain ⟨rfl, -⟩ := Prod.mk.inj (Option.some.inj found)
      exact .datetime
  · obtain ⟨rfl, -⟩ := Prod.mk.inj (Option.some.inj found)
    exact .datetime

theorem scalar_wellFormed : YieldsWellFormed scalar := by
  intro input value rest found
  unfold scalar at found
  split at found
  · cases found
  · split at found
    · exact wellFormed_of_map (fun _ => .string _) found
    · split at found
      · exact wellFormed_of_map (fun _ => .boolean _) found
      · split at found
        · exact wellFormed_of_map (fun _ => .boolean _) found
        · split at found
          · exact decimalNumber_wellFormed _ _ _ found
          · split at found
            · split at found
              · exact dateTime_wellFormed _ _ _ found
              · split at found
                · exact wellFormed_of_map (fun _ => .datetime) found
                · split at found
                  · exact basedNumber_wellFormed _ _ _ _ found
                  · exact basedNumber_wellFormed _ _ _ _ found
                  · exact basedNumber_wellFormed _ _ _ _ found
                  · exact decimalNumber_wellFormed _ _ _ found
            · cases found

/-- Whether the nodes of a table make a well-formed value. -/
structure NodesWellFormed (entries : List (String × Node)) : Prop where
  distinct : Distinct entries
  each : ∀ entry ∈ entries, (Table.ofNode entry.2).WellFormed

theorem nodesWellFormed_nil : NodesWellFormed [] := ⟨List.nodup_nil, nofun⟩

theorem ofEntries_eq_map (entries : List (String × Node)) :
    Table.ofEntries entries = entries.map fun entry => (entry.1, Table.ofNode entry.2) := by
  induction entries with
  | nil => rfl
  | cons entry entries inductionHypothesis =>
    rw [Table.ofEntries, inductionHypothesis]
    rfl

theorem ofItems_eq_map (items : List (List (String × Node))) :
    Table.ofItems items = items.map fun entries => .table (Table.ofEntries entries) := by
  induction items with
  | nil => rfl
  | cons item items inductionHypothesis => rw [Table.ofItems, inductionHypothesis, List.map_cons]

/-- A node has its key in the finished table. -/
theorem distinct_ofEntries (entries : List (String × Node)) :
    Distinct (Table.ofEntries entries) ↔ Distinct entries := by
  rw [Distinct, Distinct, ofEntries_eq_map, List.map_map]
  rfl

theorem wellFormed_ofEntries (entries : List (String × Node)) :
    (Value.table (Table.ofEntries entries)).WellFormed ↔ NodesWellFormed entries := by
  constructor
  · rintro (_ | _ | _ | _ | _ | _ | ⟨distinct, each⟩)
    rw [ofEntries_eq_map, List.forall_mem_map] at each
    exact ⟨(distinct_ofEntries entries).mp distinct, each⟩
  · rintro ⟨distinct, each⟩
    refine .table ((distinct_ofEntries entries).mpr distinct) ?_
    rw [ofEntries_eq_map, List.forall_mem_map]
    exact each

theorem wellFormed_table (origin : Origin) (entries : List (String × Node)) :
    (Table.ofNode (.table origin entries)).WellFormed ↔ NodesWellFormed entries := by
  rw [Table.ofNode, wellFormed_ofEntries]

theorem wellFormed_tables (items : List (List (String × Node))) :
    (Table.ofNode (.tables items)).WellFormed ↔ ∀ entries ∈ items, NodesWellFormed entries := by
  rw [Table.ofNode, ofItems_eq_map]
  constructor
  · rintro (_ | _ | _ | _ | _ | each | _)
    rw [List.forall_mem_map] at each
    exact fun entries member => (wellFormed_ofEntries entries).mp (each entries member)
  · intro each
    refine .array (List.forall_mem_map.mpr ?_)
    exact fun entries member => (wellFormed_ofEntries entries).mpr (each entries member)

theorem nodesWellFormed_append {entries : List (String × Node)} {key : String} {node : Node}
    (before : NodesWellFormed entries) (absent : entries.lookup key = none)
    (own : (Table.ofNode node).WellFormed) : NodesWellFormed (entries ++ [(key, node)]) where
  distinct := before.distinct.concat absent node
  each := by
    rw [List.forall_mem_append, List.forall_mem_singleton]
    exact ⟨before.each, own⟩

theorem nodesWellFormed_put {entries : List (String × Node)} {key : String} {node : Node}
    (before : NodesWellFormed entries) (own : (Table.ofNode node).WellFormed) :
    NodesWellFormed (Association.put key node entries) where
  distinct := before.distinct.put key node
  each := by
    have each := before.each
    clear before
    induction entries with
    | nil => exact List.forall_mem_singleton.mpr own
    | cons first entries inductionHypothesis =>
      obtain ⟨firstWellFormed, others⟩ := List.forall_mem_cons.mp each
      rw [Association.put]
      split
      · exact List.forall_mem_cons.mpr ⟨own, others⟩
      · exact List.forall_mem_cons.mpr ⟨firstWellFormed, inductionHypothesis others⟩

theorem wellFormed_of_lookup {entries : List (String × Node)} {key : String} {node : Node}
    (all : NodesWellFormed entries) (found : entries.lookup key = some node) :
    (Table.ofNode node).WellFormed :=
  all.each (key, node) (Association.mem_of_lookup found)

/-- A change that keeps the table at the end of a path well-formed keeps the table where the path starts
well-formed. -/
theorem alter_wellFormed {isDotted : Bool} {change : Table → Option Table}
    (keeps : ∀ table after, change table = some after → NodesWellFormed table.entries →
      NodesWellFormed after.entries) {path : List String} {table after : Table}
    (altered : Table.alter isDotted change path table = some after)
    (before : NodesWellFormed table.entries) : NodesWellFormed after.entries := by
  induction path generalizing table after with
  | nil => exact keeps table after altered before
  | cons key path inductionHypothesis =>
    rw [Table.alter] at altered
    split at altered
    · rename_i absent
      obtain ⟨child, changed, rfl⟩ := Option.map_eq_some_iff.mp altered
      have childWellFormed := inductionHypothesis changed nodesWellFormed_nil
      exact nodesWellFormed_append before absent ((wellFormed_table _ _).mpr childWellFormed)
    · cases altered
    · rename_i origin entries found
      split at altered
      · cases altered
      · obtain ⟨child, changed, rfl⟩ := Option.map_eq_some_iff.mp altered
        have childWellFormed := inductionHypothesis changed
          ((wellFormed_table origin entries).mp (wellFormed_of_lookup before found))
        exact nodesWellFormed_put before ((wellFormed_table _ _).mpr childWellFormed)
    · rename_i items found
      have itemsWellFormed := (wellFormed_tables items).mp (wellFormed_of_lookup before found)
      split at altered
      · cases altered
      · rename_i last others reversed
        obtain ⟨child, changed, rfl⟩ := Option.map_eq_some_iff.mp altered
        have shape : items = others.reverse ++ [last] := by
          rw [← List.reverse_reverse items, reversed, List.reverse_cons]
        rw [shape, List.forall_mem_append, List.forall_mem_singleton] at itemsWellFormed
        obtain ⟨othersWellFormed, lastWellFormed⟩ := itemsWellFormed
        have childWellFormed := inductionHypothesis changed lastWellFormed
        refine nodesWellFormed_put before ((wellFormed_tables _).mpr ?_)
        rw [List.forall_mem_append, List.forall_mem_singleton]
        exact ⟨othersWellFormed, childWellFormed⟩

theorem assign_wellFormed {path : List String} {key : String} {value : Value} {table after : Table}
    (assigned : table.assign path key value = some after) (before : NodesWellFormed table.entries)
    (own : value.WellFormed) : NodesWellFormed after.entries := by
  refine alter_wellFormed ?_ assigned before
  intro table after changed before
  split at changed
  · cases changed
  · split at changed
    · cases changed
    · rename_i absent
      obtain rfl := Option.some.inj changed
      exact nodesWellFormed_append before absent own

theorem listItems_wellFormed {reader : Reader Value} (items : YieldsWellFormed reader) {bound : Nat}
    {read : List Value} {input rest : List Char} {found : Value}
    (readBefore : ∀ item ∈ read, item.WellFormed)
    (listed : listItems reader bound read input = some (found, rest)) : found.WellFormed := by
  induction bound generalizing read input with
  | zero => cases listed
  | succ bound inductionHypothesis =>
    obtain ⟨ahead, -, listed⟩ := Option.bind_eq_some_iff.mp listed
    split at listed
    · obtain ⟨rfl, -⟩ := Prod.mk.inj (Option.some.inj listed)
      exact .array fun item member => readBefore item (List.mem_reverse.mp member)
    · obtain ⟨⟨item, behind⟩, itemRead, listed⟩ := Option.bind_eq_some_iff.mp listed
      obtain ⟨next, -, listed⟩ := Option.bind_eq_some_iff.mp listed
      have each : ∀ other ∈ item :: read, other.WellFormed :=
        List.forall_mem_cons.mpr ⟨items _ _ _ itemRead, readBefore⟩
      split at listed
      · exact inductionHypothesis each listed
      · obtain ⟨rfl, -⟩ := Prod.mk.inj (Option.some.inj listed)
        exact .array fun item member => each item (List.mem_reverse.mp member)
      · cases listed

theorem inlineAssignment_wellFormed {reader : Reader Value} (values : YieldsWellFormed reader)
    {input rest : List Char} {found : List String × Value}
    (assigned : inlineAssignment reader input = some (found, rest)) : found.2.WellFormed := by
  obtain ⟨⟨path, behind⟩, -, assigned⟩ := Option.bind_eq_some_iff.mp assigned
  obtain ⟨behind, -, assigned⟩ := Option.bind_eq_some_iff.mp assigned
  obtain ⟨⟨value, behind⟩, valueRead, same⟩ := Option.bind_eq_some_iff.mp assigned
  obtain ⟨rfl, -⟩ := Prod.mk.inj (Option.some.inj same)
  exact values _ _ _ valueRead

theorem inlineEntries_wellFormed {reader : Reader Value} (values : YieldsWellFormed reader)
    {bound : Nat} {table : Table} {input rest : List Char} {found : Value}
    (before : NodesWellFormed table.entries)
    (entered : inlineEntries reader bound table input = some (found, rest)) : found.WellFormed := by
  induction bound generalizing table input with
  | zero => cases entered
  | succ bound inductionHypothesis =>
    obtain ⟨⟨⟨path, value⟩, behind⟩, assignment, entered⟩ := Option.bind_eq_some_iff.mp entered
    obtain ⟨⟨path, key⟩, -, entered⟩ := Option.bind_eq_some_iff.mp entered
    obtain ⟨after, assigned, entered⟩ := Option.bind_eq_some_iff.mp entered
    have afterWellFormed := assign_wellFormed assigned before
      (inlineAssignment_wellFormed values assignment)
    split at entered
    · exact inductionHypothesis afterWellFormed entered
    · obtain ⟨rfl, -⟩ := Prod.mk.inj (Option.some.inj entered)
      exact (wellFormed_ofEntries after.entries).mpr afterWellFormed
    · cases entered

theorem value_wellFormed (depth : Nat) : YieldsWellFormed (value depth) := by
  induction depth with
  | zero => exact scalar_wellFormed
  | succ depth inductionHypothesis =>
    intro input found rest read
    simp only [value] at read
    split at read
    · exact listItems_wellFormed inductionHypothesis (List.forall_mem_nil _) read
    · simp only [inlineRest] at read
      split at read
      · obtain ⟨rfl, -⟩ := Prod.mk.inj (Option.some.inj read)
        exact .table List.nodup_nil nofun
      · exact inlineEntries_wellFormed inductionHypothesis nodesWellFormed_nil read
    · exact scalar_wellFormed _ _ _ read

/-- Whether what a statement assigns is well-formed. -/
def Statement.WellFormed : Statement → Prop
  | .assign _ value => value.WellFormed
  | .header _ => True
  | .listHeader _ => True

theorem statement_wellFormed {input rest : List Char} {found : Statement}
    (read : statement input = some (found, rest)) : found.WellFormed := by
  unfold statement at read
  split at read
  · obtain ⟨⟨path, behind⟩, -, read⟩ := Option.bind_eq_some_iff.mp read
    obtain ⟨behind, -, same⟩ := Option.bind_eq_some_iff.mp read
    obtain ⟨rfl, -⟩ := Prod.mk.inj (Option.some.inj same)
    trivial
  · obtain ⟨⟨path, behind⟩, -, read⟩ := Option.bind_eq_some_iff.mp read
    obtain ⟨behind, -, same⟩ := Option.bind_eq_some_iff.mp read
    obtain ⟨rfl, -⟩ := Prod.mk.inj (Option.some.inj same)
    trivial
  · obtain ⟨⟨path, behind⟩, -, read⟩ := Option.bind_eq_some_iff.mp read
    obtain ⟨behind, -, read⟩ := Option.bind_eq_some_iff.mp read
    obtain ⟨⟨value, behind⟩, valueRead, same⟩ := Option.bind_eq_some_iff.mp read
    obtain ⟨rfl, -⟩ := Prod.mk.inj (Option.some.inj same)
    exact value_wellFormed _ _ _ _ valueRead

theorem statements_wellFormed {bound : Nat} {read found : List Statement} {input : List Char}
    (readBefore : ∀ statement ∈ read, statement.WellFormed)
    (parsed : statements bound read input = some found) :
    ∀ statement ∈ found, statement.WellFormed := by
  induction bound generalizing read input with
  | zero => cases parsed
  | succ bound inductionHypothesis =>
    rw [statements] at parsed
    split at parsed
    · obtain rfl := Option.some.inj parsed
      exact fun statement member => readBefore statement (List.mem_reverse.mp member)
    · split at parsed
      · obtain ⟨behind, -, parsed⟩ := Option.bind_eq_some_iff.mp parsed
        exact inductionHypothesis readBefore parsed
      · obtain ⟨⟨statement, behind⟩, taken, parsed⟩ := Option.bind_eq_some_iff.mp parsed
        obtain ⟨behind, -, parsed⟩ := Option.bind_eq_some_iff.mp parsed
        exact inductionHypothesis
          (List.forall_mem_cons.mpr ⟨statement_wellFormed taken, readBefore⟩) parsed

namespace Builder

/-- Whether both tables of a growing document are well-formed. -/
structure WellFormed (builder : Builder) : Prop where
  root : NodesWellFormed builder.root.entries
  current : NodesWellFormed builder.current.entries

theorem settle_wellFormed {builder : Builder} {table : Table} (wellFormed : builder.WellFormed)
    (settled : builder.settle = some table) : NodesWellFormed table.entries := by
  rw [settle] at settled
  split at settled
  · obtain rfl := Option.some.inj settled
    exact wellFormed.current
  · refine alter_wellFormed ?_ settled wellFormed.root
    intro table after changed before
    rw [enter] at changed
    split at changed
    · cases changed
    · rename_i absent
      obtain rfl := Option.some.inj changed
      exact nodesWellFormed_append before absent ((wellFormed_table _ _).mpr wellFormed.current)
  · refine alter_wellFormed ?_ settled wellFormed.root
    intro table after changed before
    rw [append] at changed
    split at changed
    · rename_i absent
      obtain rfl := Option.some.inj changed
      refine nodesWellFormed_append before absent ((wellFormed_tables _).mpr ?_)
      exact List.forall_mem_singleton.mpr wellFormed.current
    · rename_i items found
      obtain rfl := Option.some.inj changed
      refine nodesWellFormed_put before ((wellFormed_tables _).mpr ?_)
      have itemsWellFormed := (wellFormed_tables items).mp (wellFormed_of_lookup before found)
      rw [List.forall_mem_append, List.forall_mem_singleton]
      exact ⟨itemsWellFormed, wellFormed.current⟩
    · cases changed

theorem openTable_wellFormed {key : String} {table opened left : Table}
    (found : table.openTable key = some (opened, left)) (before : NodesWellFormed table.entries) :
    NodesWellFormed opened.entries ∧ NodesWellFormed left.entries := by
  rw [Table.openTable] at found
  split at found
  · obtain ⟨rfl, rfl⟩ := Prod.mk.inj (Option.some.inj found)
    exact ⟨nodesWellFormed_nil, before⟩
  · rename_i origin entries present
    split at found
    · obtain ⟨rfl, rfl⟩ := Prod.mk.inj (Option.some.inj found)
      refine ⟨(wellFormed_table origin entries).mp (wellFormed_of_lookup before present), ?_⟩
      exact ⟨before.distinct.filter _,
        fun entry member => before.each entry (List.mem_filter.mp member).1⟩
    · cases found
  · cases found

theorem found_wellFormed {key : String} {path : List String} {table opened : Table}
    (found : openAt.found key path table = some opened) (before : NodesWellFormed table.entries) :
    NodesWellFormed opened.entries := by
  induction path generalizing table with
  | nil =>
    obtain ⟨⟨opened, left⟩, opens, rfl⟩ := Option.map_eq_some_iff.mp found
    exact (openTable_wellFormed opens before).1
  | cons step path inductionHypothesis =>
    rw [openAt.found] at found
    split at found
    · obtain rfl := Option.some.inj found
      exact nodesWellFormed_nil
    · cases found
    · rename_i origin entries present
      exact inductionHypothesis found
        ((wellFormed_table origin entries).mp (wellFormed_of_lookup before present))
    · rename_i items present
      have itemsWellFormed := (wellFormed_tables items).mp (wellFormed_of_lookup before present)
      split at found
      · rename_i last lastItem
        exact inductionHypothesis found (itemsWellFormed last (List.mem_of_getLast? lastItem))
      · cases found

theorem step_wellFormed {builder after : Builder} {statement : Statement}
    (before : builder.WellFormed) (own : statement.WellFormed)
    (stepped : builder.step statement = some after) : after.WellFormed := by
  cases statement with
  | assign path value =>
    obtain ⟨⟨path, key⟩, -, stepped⟩ := Option.bind_eq_some_iff.mp stepped
    obtain ⟨current, assigned, same⟩ := Option.bind_eq_some_iff.mp stepped
    obtain rfl := Option.some.inj same
    exact ⟨before.root, assign_wellFormed assigned before.current own⟩
  | header path =>
    obtain ⟨root, settled, stepped⟩ := Option.bind_eq_some_iff.mp stepped
    obtain ⟨⟨path, key⟩, -, stepped⟩ := Option.bind_eq_some_iff.mp stepped
    obtain ⟨⟨opened, left⟩, opens, same⟩ := Option.bind_eq_some_iff.mp stepped
    obtain rfl := Option.some.inj same
    have rootWellFormed := settle_wellFormed before settled
    obtain ⟨table, found, opens⟩ := Option.bind_eq_some_iff.mp opens
    obtain ⟨others, altered, same⟩ := Option.bind_eq_some_iff.mp opens
    obtain ⟨rfl, rfl⟩ := Prod.mk.inj (Option.some.inj same)
    refine ⟨alter_wellFormed ?_ altered rootWellFormed, found_wellFormed found rootWellFormed⟩
    intro table after changed tableWellFormed
    obtain ⟨⟨opened, left⟩, opens, rfl⟩ := Option.map_eq_some_iff.mp changed
    exact (openTable_wellFormed opens tableWellFormed).2
  | listHeader path =>
    obtain ⟨root, settled, stepped⟩ := Option.bind_eq_some_iff.mp stepped
    obtain ⟨⟨path, key⟩, -, stepped⟩ := Option.bind_eq_some_iff.mp stepped
    obtain ⟨others, altered, same⟩ := Option.bind_eq_some_iff.mp stepped
    obtain rfl := Option.some.inj same
    refine ⟨alter_wellFormed ?_ altered (settle_wellFormed before settled), nodesWellFormed_nil⟩
    intro table after changed tableWellFormed
    rw [holdsTables] at changed
    split at changed
    · obtain rfl := Option.some.inj changed
      exact tableWellFormed
    · obtain rfl := Option.some.inj changed
      exact tableWellFormed
    · cases changed

theorem foldlM_step_wellFormed {builder after : Builder} {statements : List Statement}
    (before : builder.WellFormed) (each : ∀ statement ∈ statements, statement.WellFormed)
    (carriedOut : statements.foldlM step builder = some after) : after.WellFormed := by
  induction statements generalizing builder with
  | nil =>
    obtain rfl := Option.some.inj carriedOut
    exact before
  | cons statement statements inductionHypothesis =>
    rw [List.foldlM_cons] at carriedOut
    obtain ⟨next, stepped, behind⟩ := Option.bind_eq_some_iff.mp carriedOut
    obtain ⟨own, others⟩ := List.forall_mem_cons.mp each
    exact inductionHypothesis (step_wellFormed before own stepped) others behind

end Builder

theorem parse_wellFormed {source : String} {entries : List (String × Value)}
    (parsed : parse source = some entries) : (Value.table entries).WellFormed := by
  obtain ⟨found, read, run⟩ := Option.bind_eq_some_iff.mp parsed
  obtain ⟨builder, carriedOut, run⟩ := Option.bind_eq_some_iff.mp run
  obtain ⟨table, settled, same⟩ := Option.bind_eq_some_iff.mp run
  obtain rfl := Option.some.inj same
  have each := statements_wellFormed (List.forall_mem_nil _) read
  have started : Builder.start.WellFormed := ⟨nodesWellFormed_nil, nodesWellFormed_nil⟩
  have builderWellFormed := Builder.foldlM_step_wellFormed started each carriedOut
  exact (wellFormed_ofEntries table.entries).mpr (Builder.settle_wellFormed builderWellFormed settled)

end Dashboard.Toml
