import Dashboard.Web.Handlers

namespace Dashboard.Web

theorem dataKey_toList (widget key : String) :
    (dataKey widget key).toList = widget.toList ++ '/' :: key.toList := by
  simp [dataKey]

theorem dataKey_assoc (widget middle key : String) :
    dataKey (dataKey widget middle) key = dataKey widget (dataKey middle key) := by
  apply String.toList_injective
  simp [dataKey_toList]

private theorem dataKey_of_suffix {widget key other otherKey : String} {suffix : List Char}
    (longer : other.toList = widget.toList ++ suffix)
    (rest : '/' :: key.toList = suffix ++ '/' :: otherKey.toList) :
    (widget = other ∧ key = otherKey) ∨
      ∃ middle, other = dataKey widget middle ∧ key = dataKey middle otherKey := by
  cases suffix with
  | nil =>
    refine Or.inl ⟨String.toList_injective ?_, String.toList_injective ?_⟩
    · simpa using longer.symm
    · simpa using rest
  | cons first middle =>
    obtain ⟨rfl, keyText⟩ : '/' = first ∧ key.toList = middle ++ '/' :: otherKey.toList := by
      simpa using rest
    refine Or.inr ⟨String.ofList middle, String.toList_injective ?_, String.toList_injective ?_⟩
    · simpa [dataKey_toList] using longer
    · simpa [dataKey_toList] using keyText

/-- Two pairs have the same name only if one widget goes on where the other ends, and takes as much
of the other's key. -/
theorem dataKey_eq_iff (widget key other otherKey : String) :
    dataKey widget key = dataKey other otherKey ↔
      (widget = other ∧ key = otherKey) ∨
      (∃ middle, other = dataKey widget middle ∧ key = dataKey middle otherKey) ∨
      ∃ middle, widget = dataKey other middle ∧ otherKey = dataKey middle key := by
  constructor
  · intro same
    have texts := congrArg String.toList same
    rw [dataKey_toList, dataKey_toList, List.append_eq_append_iff] at texts
    rcases texts with ⟨suffix, longer, rest⟩ | ⟨suffix, longer, rest⟩
    · exact (dataKey_of_suffix longer rest).imp_right Or.inl
    · rcases dataKey_of_suffix longer rest with ⟨rfl, rfl⟩ | found
      · exact Or.inl ⟨rfl, rfl⟩
      · exact Or.inr (Or.inr found)
  · rintro (⟨rfl, rfl⟩ | ⟨middle, rfl, rfl⟩ | ⟨middle, rfl, rfl⟩)
    · rfl
    · exact (dataKey_assoc widget middle otherKey).symm
    · exact dataKey_assoc other middle key

/-- Whether data of another widget, or under another key that is not empty, has the same name. -/
def SharesName (widget key : String) : Prop :=
  ∃ other otherKey, otherKey ≠ "" ∧ dataKey other otherKey = dataKey widget key ∧
    ¬(other = widget ∧ otherKey = key)

private theorem ne_dataKey (widget middle : String) : dataKey widget middle ≠ widget := by
  intro same
  have lengths := congrArg (fun text => text.toList.length) same
  simp only [dataKey_toList, List.length_append, List.length_cons] at lengths
  omega

/-- A name is shared by everything in it that a slash inside of the widget, or inside of the key,
splits in another place. A slash at the end of the key leaves no key behind it. -/
theorem sharesName_iff (widget key : String) :
    SharesName widget key ↔ '/' ∈ widget.toList ∨ '/' ∈ key.toList.dropLast := by
  constructor
  · rintro ⟨other, otherKey, someKey, same, different⟩
    rcases (dataKey_eq_iff other otherKey widget key).mp same with
      equal | ⟨middle, rfl, _⟩ | ⟨middle, _, rfl⟩
    · exact absurd equal different
    · exact Or.inl (by simp [dataKey_toList])
    · have text : otherKey.toList ≠ [] := by simpa using someKey
      refine Or.inr ?_
      rw [dataKey_toList, List.dropLast_append_of_ne_nil (by simp), List.dropLast_cons_of_ne_nil text]
      simp
  · rintro (inside | inside)
    · obtain ⟨front, back, split⟩ := List.append_of_mem inside
      obtain rfl : widget = dataKey (String.ofList front) (String.ofList back) :=
        String.toList_injective (by simp [dataKey_toList, split])
      refine ⟨String.ofList front, dataKey (String.ofList back) key, ?_,
        (dataKey_assoc _ _ _).symm, fun equal => ne_dataKey _ _ equal.1.symm⟩
      intro blank
      simpa [dataKey_toList] using congrArg String.toList blank
    · obtain ⟨front, back, split⟩ := List.append_of_mem inside
      have text : key.toList ≠ [] := by
        intro blank
        simp [blank] at inside
      obtain ⟨last, whole⟩ : ∃ last, key.toList = front ++ '/' :: (back ++ [last]) := by
        refine ⟨key.toList.getLast text, ?_⟩
        rw [← List.cons_append, ← List.append_assoc, ← split, List.dropLast_concat_getLast]
      obtain rfl : key = dataKey (String.ofList front) (String.ofList (back ++ [last])) :=
        String.toList_injective (by rw [dataKey_toList]; simpa using whole)
      refine ⟨dataKey widget (String.ofList front), String.ofList (back ++ [last]), ?_,
        dataKey_assoc _ _ _, fun equal => ne_dataKey _ _ equal.1⟩
      intro blank
      simpa using congrArg String.toList blank

end Dashboard.Web
