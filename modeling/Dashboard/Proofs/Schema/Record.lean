import Dashboard.Proofs.Association
import Dashboard.Schema.Record
import Mathlib.Data.List.Nodup

namespace Dashboard.Schema

variable {ν σ α β γ : Type}

/-- Each of some names is that of at most one entry. -/
def NamedOnce (names : List String) (entries : List (String × ν)) : Prop :=
  ∀ name ∈ names, entries.countP (·.1 = name) ≤ 1

theorem NamedOnce.tail {names : List String} {entry : String × ν} {rest : List (String × ν)}
    (once : NamedOnce names (entry :: rest)) : NamedOnce names rest := fun name present =>
  Nat.le_trans (List.Sublist.countP_le (List.sublist_cons_self entry rest)) (once name present)

/-- Behind the entry of a name there is no other. -/
theorem NamedOnce.not_mem_tail {names : List String} {entry : String × ν} {rest : List (String × ν)}
    (once : NamedOnce names (entry :: rest)) (known : entry.1 ∈ names) :
    ∀ other ∈ rest, other.1 ≠ entry.1 := by
  have first := once entry.1 known
  have noOther : rest.countP (·.1 = entry.1) = 0 := by
    rw [List.countP_cons_of_pos (by simp)] at first
    omega
  intro other present
  simpa using List.countP_eq_zero.mp noOther other present

theorem namedOnce_of_distinct {entries : List (String × ν)}
    (distinct : Association.Distinct entries) (names : List String) : NamedOnce names entries := by
  intro name _
  have once := List.nodup_iff_count_le_one.mp distinct name
  rw [List.count_eq_countP, List.countP_map] at once
  simpa [Function.comp_def, beq_eq_decide] using once

theorem toOption_bind {ε : Type} (outcome : Except ε α) (next : α → Except ε β) :
    (outcome >>= next).toOption = outcome.toOption.bind fun value => (next value).toOption := by
  cases outcome with
  | error reason => rfl
  | ok value => rfl

theorem toOption_eq_some_iff {ε : Type} {outcome : Except ε α} {value : α} :
    outcome.toOption = some value ↔ outcome = .ok value := by
  cases outcome with
  | error reason => simp [Except.toOption]
  | ok found => simp [Except.toOption]

/-- What is decoded of what was found, which may be nothing. -/
def decodeFound (decode : ν → Except Misfit β) : Option ν → Option (Option β)
  | none => some none
  | some value => (decode value).toOption.map some

theorem decodeFound_eq_some_none {decode : ν → Except Misfit β} {found : Option ν} :
    decodeFound decode found = some none ↔ found = none := by
  cases found with
  | none => simp [decodeFound]
  | some value => simp [decodeFound]

theorem decodeFound_eq_some_some {decode : ν → Except Misfit β} {found : Option ν} {content : β} :
    decodeFound decode found = some (some content) ↔
      ∃ value, found = some value ∧ decode value = .ok content := by
  cases found with
  | none => simp [decodeFound]
  | some value => simp [decodeFound, toOption_eq_some_iff]

namespace Field

/-- Fills a field with what is found under its name, if anything is. -/
def supply (find : String → Option ν) (gathered : σ) (field : Field ν σ) : Option σ :=
  match find field.name with
  | none => some gathered
  | some value => (field.fill gathered value).toOption

def supplyAll (find : String → Option ν) (gathered : σ) (fields : List (Field ν σ)) : Option σ :=
  fields.foldlM (supply find) gathered

/-- Two fields that can be filled in either order. -/
def Commutes (first second : Field ν σ) : Prop :=
  ∀ gathered a b, (first.fill gathered a).toOption.bind (fun next => (second.fill next b).toOption) =
    (second.fill gathered b).toOption.bind fun next => (first.fill next a).toOption

/-- A field that decodes what it is given and replaces a part. -/
def replacing (name : String) (isOptional : Bool) (decode : ν → Except Misfit β)
    (replace : σ → β → σ) : Field ν σ :=
  ⟨name, isOptional, fun gathered value => (decode value).map (replace gathered)⟩

theorem fill_replacing {name : String} {isOptional : Bool} {decode : ν → Except Misfit β}
    {replace : σ → β → σ} {gathered next : σ} {value : ν} :
    (replacing name isOptional decode replace).fill gathered value = .ok next ↔
      ∃ content, decode value = .ok content ∧ replace gathered content = next := by
  simp only [replacing]
  cases decode value with
  | error reason => simp [Except.map]
  | ok content => simp [Except.map]

theorem supply_replacing (name : String) (isOptional : Bool) (decode : ν → Except Misfit β)
    (replace : σ → β → σ) (find : String → Option ν) (gathered : σ) :
    (replacing name isOptional decode replace).supply find gathered =
      (decodeFound decode (find name)).map fun content => content.elim gathered (replace gathered) := by
  simp only [supply, replacing]
  cases find name with
  | none => rfl
  | some value =>
    simp only [decodeFound]
    cases decode value <;> rfl

theorem commutes_replacing {name nameOther : String} {isOptional isOptionalOther : Bool}
    {decode : ν → Except Misfit β} {decodeOther : ν → Except Misfit γ} {replace : σ → β → σ}
    {replaceOther : σ → γ → σ}
    (swap : ∀ gathered a b,
      replaceOther (replace gathered a) b = replace (replaceOther gathered b) a) :
    (replacing name isOptional decode replace).Commutes
      (replacing nameOther isOptionalOther decodeOther replaceOther) := by
  intro gathered a b
  simp only [replacing]
  cases decode a with
  | error reason => cases decodeOther b <;> rfl
  | ok value =>
    cases decodeOther b with
    | error reason => rfl
    | ok found => exact congrArg some (swap gathered value found)

theorem supplyAll_nil (find : String → Option ν) (gathered : σ) :
    supplyAll find gathered [] = some gathered := rfl

theorem supplyAll_cons (find : String → Option ν) (gathered : σ) (field : Field ν σ)
    (fields : List (Field ν σ)) :
    supplyAll find gathered (field :: fields) =
      (field.supply find gathered).bind fun next => supplyAll find next fields :=
  List.foldlM_cons ..

theorem supplyAll_append (find : String → Option ν) (gathered : σ)
    (before after : List (Field ν σ)) :
    supplyAll find gathered (before ++ after) =
      (supplyAll find gathered before).bind fun next => supplyAll find next after :=
  List.foldlM_append ..

/-- Fields that replace parts are filled with what is decoded of what is found for each. -/
theorem supplyAll_replacing (name : String) (isOptional : Bool) (decode : ν → Except Misfit β)
    (replace : σ → β → σ) (find : String → Option ν) (gathered : σ) (fields : List (Field ν σ)) :
    supplyAll find gathered (replacing name isOptional decode replace :: fields) =
      (decodeFound decode (find name)).bind fun content =>
        supplyAll find (content.elim gathered (replace gathered)) fields := by
  rw [supplyAll_cons, supply_replacing, Option.bind_map]
  rfl

theorem supplyAll_congr {entries others : List (String × ν)} {fields : List (Field ν σ)}
    (same : ∀ field ∈ fields, entries.lookup field.name = others.lookup field.name) (gathered : σ) :
    supplyAll (entries.lookup ·) gathered fields = supplyAll (others.lookup ·) gathered fields := by
  induction fields generalizing gathered with
  | nil => rfl
  | cons field rest inductionHypothesis =>
    have first : field.supply (entries.lookup ·) gathered = field.supply (others.lookup ·) gathered := by
      simp only [supply, same field List.mem_cons_self]
    have later := inductionHypothesis fun field present => same field (List.mem_cons_of_mem _ present)
    simp only [supplyAll_cons, first, later]

theorem supplyAll_of_absent {find : String → Option ν} {fields : List (Field ν σ)}
    (absent : ∀ field ∈ fields, find field.name = none) (gathered : σ) :
    supplyAll find gathered fields = some gathered := by
  induction fields with
  | nil => rfl
  | cons field rest inductionHypothesis =>
    rw [supplyAll_cons, supply, absent field List.mem_cons_self]
    exact inductionHypothesis fun field present => absent field (List.mem_cons_of_mem _ present)

/-- A field can be filled before the fields that it commutes with instead of after them. -/
theorem supplyAll_bind_fill {field : Field ν σ} {fields : List (Field ν σ)}
    (commutes : ∀ other ∈ fields, other.Commutes field) (find : String → Option ν) (gathered : σ)
    (value : ν) :
    (supplyAll find gathered fields).bind (fun next => (field.fill next value).toOption) =
      (field.fill gathered value).toOption.bind fun next => supplyAll find next fields := by
  induction fields generalizing gathered with
  | nil => simp [supplyAll]
  | cons other rest inductionHypothesis =>
    have others := inductionHypothesis fun other present =>
      commutes other (List.mem_cons_of_mem _ present)
    simp only [supplyAll_cons, Option.bind_assoc, others]
    cases found : find other.name with
    | none => simp only [supply, found, Option.bind_some]
    | some content =>
      have swapped := commutes other List.mem_cons_self gathered content value
      simp only [supply, found, ← Option.bind_assoc, swapped]

end Field

namespace Record

open Dashboard.Schema.Field (supply supplyAll Commutes)

variable (record : Record ν σ α)

def names : List String := record.fields.map (·.name)

/-- The record of what is found under the names of its fields. -/
def build (find : String → Option ν) : Option α :=
  (supplyAll find record.empty record.fields).bind fun gathered => (record.make gathered).toOption

/-- Fields have names of their own and can be filled in any order, and those that are not optional are
needed. -/
structure Lawful : Prop where
  distinct : record.names.Nodup
  commutes : record.fields.Pairwise Commutes
  needed : ∀ find made, record.build find = some made →
    ∀ field ∈ record.fields, field.isOptional = false → find field.name ≠ none

variable {record}

theorem build_eq_some_iff {find : String → Option ν} {made : α} :
    record.build find = some made ↔
      ∃ gathered, supplyAll find record.empty record.fields = some gathered ∧
        record.make gathered = .ok made := by
  simp only [build, Option.bind_eq_some_iff, toOption_eq_some_iff]

theorem lookup_cons_of_ne {name : String} {entry : String × ν} (different : name ≠ entry.1)
    (rest : List (String × ν)) : (entry :: rest).lookup name = rest.lookup name := by
  rw [Association.lookup_cons, if_neg different]

theorem lookup_eq_none {name : String} {entries : List (String × ν)}
    (absent : ∀ entry ∈ entries, entry.1 ≠ name) : entries.lookup name = none := by
  rw [List.lookup_eq_none_iff]
  exact fun entry present => bne_iff_ne.mpr (absent entry present).symm

/-- A field that is found in the first entry alone can be filled before all others. -/
theorem Lawful.supplyAll_cons_entry (lawful : record.Lawful) {field : Field ν σ}
    {entry : String × ν} (found : record.fields.find? (·.name == entry.1) = some field)
    {rest : List (String × ν)} (absent : rest.lookup entry.1 = none) (gathered : σ) :
    supplyAll ((entry :: rest).lookup ·) gathered record.fields =
      (field.fill gathered entry.2).toOption.bind fun next =>
        supplyAll (rest.lookup ·) next record.fields := by
  obtain ⟨test, before, after, fields, -⟩ := List.find?_eq_some_iff_append.mp found
  have named : field.name = entry.1 := by simpa using test
  have distinct := lawful.distinct
  have commutes := lawful.commutes
  rw [names, fields, List.map_append, List.map_cons, List.nodup_append] at distinct
  rw [fields, List.pairwise_append] at commutes
  have front : ∀ other ∈ before,
      (entry :: rest).lookup other.name = rest.lookup other.name := fun other present =>
    lookup_cons_of_ne (named ▸ distinct.2.2 _ (List.mem_map_of_mem present) _ List.mem_cons_self) rest
  have behind : ∀ other ∈ after,
      (entry :: rest).lookup other.name = rest.lookup other.name := fun other present =>
    lookup_cons_of_ne (fun same => (List.nodup_cons.mp distinct.2.1).1
      (named.trans same.symm ▸ List.mem_map_of_mem present)) rest
  calc supplyAll ((entry :: rest).lookup ·) gathered record.fields
      = ((supplyAll (rest.lookup ·) gathered before).bind fun next =>
          (field.fill next entry.2).toOption).bind fun next => supplyAll (rest.lookup ·) next after := by
        have first : (entry :: rest).lookup field.name = some entry.2 := by
          rw [Association.lookup_cons, if_pos named]
        rw [fields, Field.supplyAll_append, Field.supplyAll_congr front, Option.bind_assoc]
        simp only [Field.supplyAll_cons, supply, first, Field.supplyAll_congr behind]
    _ = ((field.fill gathered entry.2).toOption.bind fun next =>
          supplyAll (rest.lookup ·) next before).bind fun next =>
            supplyAll (rest.lookup ·) next after := by
        rw [Field.supplyAll_bind_fill fun other present =>
          commutes.2.2 other present field List.mem_cons_self]
    _ = (field.fill gathered entry.2).toOption.bind fun next =>
          supplyAll (rest.lookup ·) next record.fields := by
        rw [fields, Option.bind_assoc]
        simp only [Field.supplyAll_append, Field.supplyAll_cons, supply, named, absent,
          Option.bind_some]

/-- A name that no field has changes nothing, and a field is filled wherever the entry stands. -/
theorem Lawful.toOption_foldlM (lawful : record.Lawful) {entries : List (String × ν)}
    (once : NamedOnce record.names entries) (gathered : σ) :
    (entries.foldlM record.fillEntry gathered).toOption =
      supplyAll (entries.lookup ·) gathered record.fields := by
  induction entries generalizing gathered with
  | nil => exact (Field.supplyAll_of_absent (fun _ _ => rfl) gathered).symm
  | cons entry rest inductionHypothesis =>
    have later := inductionHypothesis once.tail
    rw [List.foldlM_cons, toOption_bind, fillEntry]
    cases found : record.fields.find? (·.name == entry.1) with
    | none =>
      have others : ∀ field ∈ record.fields,
          (entry :: rest).lookup field.name = rest.lookup field.name := by
        intro field present
        have different := List.find?_eq_none.mp found field present
        exact lookup_cons_of_ne (by simpa using different) rest
      exact (later gathered).trans (Field.supplyAll_congr others gathered).symm
    | some field =>
      have named : field.name = entry.1 := by simpa using List.find?_some found
      have known : entry.1 ∈ record.names :=
        named ▸ List.mem_map_of_mem (List.mem_of_find?_eq_some found)
      have absent := lookup_eq_none (once.not_mem_tail known)
      rw [lawful.supplyAll_cons_entry found absent]
      simp only [later]

/-- Entries fit a record exactly if what is found among them does. -/
theorem Lawful.ofEntries_eq_ok_iff (lawful : record.Lawful) {entries : List (String × ν)}
    (once : NamedOnce record.names entries) (made : α) :
    record.ofEntries entries = .ok made ↔ record.build (entries.lookup ·) = some made := by
  rw [build, ← lawful.toOption_foldlM once, ofEntries]
  cases entries.foldlM record.fillEntry record.empty with
  | error reason => simp [Except.toOption]
  | ok gathered => exact toOption_eq_some_iff.symm

theorem fillItems_nil (place : Nat) (gathered : σ) (fields : List (Field ν σ)) (last : σ) :
    record.fillItems place gathered fields [] = .ok last ↔
      (∀ field ∈ fields, field.isOptional = true) ∧ gathered = last := by
  induction fields generalizing place with
  | nil => simp [fillItems]
  | cons field rest inductionHypothesis =>
    by_cases optional : field.isOptional = true
    · simp [fillItems, optional, inductionHypothesis]
    · simp [fillItems, optional]

/-- Items fill the fields in turn, and those that are not optional must all get one. -/
theorem fillItems_eq_ok_iff (place : Nat) (gathered : σ) {fields : List (Field ν σ)}
    (distinct : (fields.map (·.name)).Nodup) (items : List ν) (last : σ) :
    record.fillItems place gathered fields items = .ok last ↔
      (∀ field ∈ fields, field.isOptional = false →
        ((fields.map (·.name)).zip items).lookup field.name ≠ none) ∧
      supplyAll (((fields.map (·.name)).zip items).lookup ·) gathered fields = some last := by
  induction fields generalizing place gathered items with
  | nil => simp [fillItems, supplyAll]
  | cons field rest inductionHypothesis =>
    cases items with
    | nil =>
      rw [fillItems_nil, Field.supplyAll_of_absent fun other _ => by simp]
      simp
    | cons item items =>
      obtain ⟨absent, distinct⟩ := List.nodup_cons.mp distinct
      rw [List.map_cons, List.zip_cons_cons, List.forall_mem_cons, Field.supplyAll_cons]
      generalize later : (rest.map (·.name)).zip items = entries at *
      have first : ((field.name, item) :: entries).lookup field.name = some item := by
        rw [Association.lookup_cons, if_pos rfl]
      have skips : ∀ other ∈ rest,
          ((field.name, item) :: entries).lookup other.name = entries.lookup other.name := by
        intro other present
        refine lookup_cons_of_ne (fun same => absent ?_) _
        exact List.mem_map.mpr ⟨other, present, same⟩
      simp only [fillItems, supply, first]
      cases field.fill gathered item with
      | error reason => simp [Except.toOption]
      | ok next =>
        have others := inductionHypothesis (place + 1) next distinct items
        rw [later] at others
        have same : (∀ other ∈ rest, other.isOptional = false →
            ((field.name, item) :: entries).lookup other.name ≠ none) ↔
              ∀ other ∈ rest, other.isOptional = false → entries.lookup other.name ≠ none :=
          forall₂_congr fun other present => by rw [skips other present]
        rw [same]
        simp only [Except.toOption, Option.bind_some, Field.supplyAll_congr skips, others, ne_eq,
          reduceCtorEq, not_false_eq_true, implies_true, true_and]

/-- Items fit a record exactly if what they are in the order of its fields does. -/
theorem Lawful.ofItems_eq_ok_iff (lawful : record.Lawful) (items : List ν) (made : α) :
    record.ofItems items = .ok made ↔
      record.build ((record.names.zip items).lookup ·) = some made := by
  have filled := record.fillItems_eq_ok_iff 0 record.empty lawful.distinct items
  constructor
  · intro accepted
    rw [ofItems] at accepted
    split at accepted
    · rename_i gathered outcome
      exact build_eq_some_iff.mpr ⟨gathered, ((filled gathered).mp outcome).2, accepted⟩
    · cases accepted
  · intro built
    obtain ⟨gathered, supplied, accepted⟩ := build_eq_some_iff.mp built
    have outcome := (filled gathered).mpr ⟨lawful.needed _ made built, supplied⟩
    rw [ofItems, outcome]
    exact accepted

end Record
end Dashboard.Schema
