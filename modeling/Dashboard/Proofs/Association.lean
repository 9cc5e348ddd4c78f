import Dashboard.Association

namespace Dashboard.Association

variable {Key Value : Type} [BEq Key] [LawfulBEq Key] [DecidableEq Key]

/-- Every key has one entry at most. -/
def Distinct (entries : List (Key × Value)) : Prop := (entries.map Prod.fst).Nodup

theorem lookup_cons (key : Key) (entry : Key × Value) (rest : List (Key × Value)) :
    (entry :: rest).lookup key = if key = entry.1 then some entry.2 else rest.lookup key := by
  obtain ⟨name, value⟩ := entry
  by_cases same : key = name
  · simp [same]
  · have test : (key == name) = false := beq_eq_false_iff_ne.mpr same
    simp only [List.lookup_cons, test, same, if_false]

omit [DecidableEq Key] in
theorem mem_of_lookup {entries : List (Key × Value)} {key : Key} {value : Value}
    (found : entries.lookup key = some value) : (key, value) ∈ entries := by
  obtain ⟨before, after, rfl, -⟩ := List.lookup_eq_some_iff.mp found
  exact List.mem_append_right before List.mem_cons_self

theorem lookup_map (update : Key × Value → Key × Value) (keeps : ∀ entry, (update entry).1 = entry.1)
    (key : Key) (entries : List (Key × Value)) :
    (entries.map update).lookup key =
      (entries.lookup key).map fun value => (update (key, value)).2 := by
  induction entries with
  | nil => rfl
  | cons entry rest inductionHypothesis =>
    rw [List.map_cons, lookup_cons, lookup_cons, keeps, inductionHypothesis]
    by_cases same : key = entry.1
    · simp [same]
    · simp [same]

theorem lookup_put (key other : Key) (value : Value) (entries : List (Key × Value)) :
    (put key value entries).lookup other =
      if other = key then some value else entries.lookup other := by
  induction entries with
  | nil => simp [put, lookup_cons]
  | cons entry rest inductionHypothesis =>
    by_cases replaced : entry.1 = key
    · simp only [put, replaced, if_true, lookup_cons]
      by_cases same : other = key <;> simp [same]
    · simp only [put, replaced, if_false, lookup_cons, inductionHypothesis]
      by_cases same : other = entry.1
      · simp [same, replaced]
      · simp [same]

theorem lookup_filter_ne (key other : Key) (entries : List (Key × Value)) :
    (entries.filter fun entry => entry.1 ≠ key).lookup other =
      if other = key then none else entries.lookup other := by
  induction entries with
  | nil => simp
  | cons entry rest inductionHypothesis =>
    by_cases dropped : entry.1 = key
    · rw [List.filter_cons_of_neg (by simp [dropped]), inductionHypothesis, lookup_cons, dropped]
      by_cases same : other = key <;> simp [same]
    · rw [List.filter_cons_of_pos (by simp [dropped]), lookup_cons, lookup_cons,
        inductionHypothesis]
      by_cases same : other = entry.1
      · simp [same, dropped]
      · simp [same]

omit [BEq Key] [LawfulBEq Key] in
theorem mem_keys_put (key other : Key) (value : Value) (entries : List (Key × Value)) :
    other ∈ (put key value entries).map Prod.fst ↔
      other = key ∨ other ∈ entries.map Prod.fst := by
  induction entries with
  | nil => simp [put]
  | cons entry rest inductionHypothesis =>
    by_cases replaced : entry.1 = key
    · simp [put, replaced]
    · simp only [put, replaced, if_false, List.map_cons, List.mem_cons, inductionHypothesis]
      exact or_left_comm

omit [BEq Key] [LawfulBEq Key] in
theorem Distinct.put {entries : List (Key × Value)} (distinct : Distinct entries) (key : Key)
    (value : Value) : Distinct (put key value entries) := by
  induction entries with
  | nil => simp [Distinct, Association.put]
  | cons entry rest inductionHypothesis =>
    obtain ⟨absent, distinctRest⟩ := List.nodup_cons.mp distinct
    by_cases replaced : entry.1 = key
    · subst replaced
      simpa [Distinct, Association.put] using distinct
    · simp only [Distinct, Association.put, replaced, if_false, List.map_cons, List.nodup_cons]
      refine ⟨?_, inductionHypothesis distinctRest⟩
      rw [mem_keys_put]
      rintro (same | present)
      · exact replaced same
      · exact absent present

theorem length_put (key : Key) (value : Value) (entries : List (Key × Value)) :
    (put key value entries).length =
      entries.length + if (entries.lookup key).isSome then 0 else 1 := by
  induction entries with
  | nil => rfl
  | cons entry rest inductionHypothesis =>
    by_cases replaced : entry.1 = key
    · simp [put, lookup_cons, replaced]
    · simp only [put, replaced, if_false, List.length_cons, inductionHypothesis, lookup_cons,
        Ne.symm replaced]
      omega

omit [DecidableEq Key] in
/-- A key that a look-up does not find can be entered behind all others. -/
theorem Distinct.concat {entries : List (Key × Value)} (distinct : Distinct entries) {key : Key}
    (absent : entries.lookup key = none) (value : Value) : Distinct (entries ++ [(key, value)]) := by
  have unused : key ∉ entries.map Prod.fst := by
    intro present
    obtain ⟨entry, member, rfl⟩ := List.mem_map.mp present
    exact bne_iff_ne.mp (List.lookup_eq_none_iff.mp absent entry member) rfl
  rw [Distinct, List.map_append, List.map_singleton, List.nodup_append]
  refine ⟨distinct, List.pairwise_singleton .., ?_⟩
  intro name member other last same
  obtain rfl := List.mem_singleton.mp last
  exact unused (same ▸ member)

omit [BEq Key] [LawfulBEq Key] [DecidableEq Key] in
theorem Distinct.filter {entries : List (Key × Value)} (distinct : Distinct entries)
    (keep : Key × Value → Bool) : Distinct (entries.filter keep) :=
  distinct.sublist (List.filter_sublist.map Prod.fst)

/-- Dropping entries by their values hides no other entry behind them, because no key has two. -/
theorem Distinct.lookup_filter {entries : List (Key × Value)} (distinct : Distinct entries)
    (keep : Value → Bool) (key : Key) :
    (entries.filter fun entry => keep entry.2).lookup key = (entries.lookup key).filter keep := by
  induction entries with
  | nil => rfl
  | cons entry rest inductionHypothesis =>
    obtain ⟨absent, distinctRest⟩ := List.nodup_cons.mp distinct
    have tail := inductionHypothesis distinctRest
    have missing : key = entry.1 → rest.lookup key = none := by
      intro same
      rw [List.lookup_eq_none_iff]
      intro other present
      rw [bne_iff_ne]
      intro equal
      exact absent (List.mem_map.mpr ⟨other, present, equal.symm.trans same⟩)
    by_cases kept : keep entry.2 = true
    · rw [List.filter_cons_of_pos (by exact kept), lookup_cons, lookup_cons, tail]
      by_cases same : key = entry.1
      · rw [if_pos same, if_pos same, Option.filter_some_pos kept]
      · rw [if_neg same, if_neg same]
    · rw [List.filter_cons_of_neg (by exact kept), lookup_cons, tail]
      by_cases same : key = entry.1
      · rw [if_pos same, missing same, Option.filter_some_neg (by simpa using kept), Option.filter_none]
      · rw [if_neg same]

/-- Dropping a key drops its one entry, if it has one. -/
theorem Distinct.length_filter_ne {entries : List (Key × Value)} (distinct : Distinct entries)
    (key : Key) :
    (entries.filter fun entry => entry.1 ≠ key).length +
      (if (entries.lookup key).isSome then 1 else 0) = entries.length := by
  induction entries with
  | nil => rfl
  | cons entry rest inductionHypothesis =>
    obtain ⟨absent, distinctRest⟩ := List.nodup_cons.mp distinct
    by_cases dropped : entry.1 = key
    · have others : (rest.filter fun entry => entry.1 ≠ key) = rest := by
        rw [List.filter_eq_self]
        intro other present
        rw [decide_eq_true_eq]
        intro same
        exact absent (List.mem_map.mpr ⟨other, present, same.trans dropped.symm⟩)
      rw [List.filter_cons_of_neg (by simp [dropped]), others, lookup_cons, if_pos dropped.symm]
      rfl
    · rw [List.filter_cons_of_pos (by simp [dropped]), lookup_cons, if_neg (Ne.symm dropped),
        List.length_cons, List.length_cons, ← inductionHypothesis distinctRest]
      omega

theorem Distinct.mem_iff {entries : List (Key × Value)} (distinct : Distinct entries) (key : Key)
    (value : Value) : (key, value) ∈ entries ↔ entries.lookup key = some value := by
  induction entries with
  | nil => simp
  | cons entry rest inductionHypothesis =>
    obtain ⟨absent, distinctRest⟩ := List.nodup_cons.mp distinct
    rw [List.mem_cons, inductionHypothesis distinctRest, lookup_cons]
    by_cases same : key = entry.1
    · subst same
      rw [if_pos rfl, Option.some_inj]
      constructor
      · rintro (first | later)
        · exact (congrArg Prod.snd first).symm
        · have present := (inductionHypothesis distinctRest).mpr later
          exact absurd (List.mem_map_of_mem present) absent
      · rintro rfl
        exact Or.inl rfl
    · rw [if_neg same]
      constructor
      · rintro (first | later)
        · exact absurd (congrArg Prod.fst first) same
        · exact later
      · exact Or.inr

end Dashboard.Association
