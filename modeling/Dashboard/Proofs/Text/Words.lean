import Dashboard.Text.Blank

namespace Dashboard.Text

/-- What `words` makes of one more character in front: the run that the text starts with, and the words
behind it. -/
def gather (c : Char) (state : List Char × List (List Char)) : List Char × List (List Char) :=
  if isBlank c then ([], if state.1.isEmpty then state.2 else state.1 :: state.2)
  else (c :: state.1, state.2)

/-- The words when a whole text has been gone through. -/
def gathered (state : List Char × List (List Char)) : List (List Char) :=
  if state.1.isEmpty then state.2 else state.1 :: state.2

theorem words_eq_gathered (text : List Char) : words text = gathered (text.foldr gather ([], [])) := rfl

theorem gather_of_blank {c : Char} (blank : isBlank c = true) (state : List Char × List (List Char)) :
    gather c state = ([], gathered state) := by
  simp [gather, gathered, blank]

theorem gather_of_not_blank {c : Char} (solid : isBlank c = false)
    (state : List Char × List (List Char)) : gather c state = (c :: state.1, state.2) := by
  simp [gather, solid]

/-- Words that are known already stay behind the others. -/
theorem foldr_gather_onto (text : List Char) (known : List (List Char)) :
    text.foldr gather ([], known) =
      ((text.foldr gather ([], [])).1, (text.foldr gather ([], [])).2 ++ known) := by
  induction text with
  | nil => rfl
  | cons c rest inductionHypothesis =>
    rw [List.foldr_cons, List.foldr_cons, inductionHypothesis]
    cases blank : isBlank c with
    | false => simp only [gather_of_not_blank blank]
    | true =>
      simp only [gather_of_blank blank, gathered, Prod.mk.injEq, true_and]
      split <;> rfl

theorem words_append_of_blank {c : Char} (blank : isBlank c = true) (front rest : List Char) :
    words (front ++ c :: rest) = words front ++ words rest := by
  simp only [words_eq_gathered, List.foldr_append, List.foldr_cons, gather_of_blank blank]
  rw [foldr_gather_onto]
  simp only [gathered]
  split <;> rfl

theorem foldr_gather_of_solid {run : List Char} (solid : ∀ c ∈ run, isBlank c = false) :
    run.foldr gather ([], []) = (run, []) := by
  induction run with
  | nil => rfl
  | cons c rest inductionHypothesis =>
    have later := inductionHypothesis fun other present => solid other (List.mem_cons_of_mem _ present)
    rw [List.foldr_cons, later, gather_of_not_blank (solid c List.mem_cons_self)]

theorem words_of_solid {run : List Char} (present : run ≠ []) (solid : ∀ c ∈ run, isBlank c = false) :
    words run = [run] := by
  rw [words_eq_gathered, foldr_gather_of_solid solid]
  simp [gathered, present]

theorem gathered_flatten (state : List Char × List (List Char)) :
    (gathered state).flatten = state.1 ++ state.2.flatten := by
  simp only [gathered]
  split
  · rename_i noWord
    simp [List.isEmpty_iff.mp noWord]
  · rfl

/-- The words of a text are all of it but its blanks. -/
theorem words_flatten (text : List Char) : (words text).flatten = text.filter (!isBlank ·) := by
  rw [words_eq_gathered, gathered_flatten]
  induction text with
  | nil => rfl
  | cons c rest inductionHypothesis =>
    rw [List.foldr_cons]
    cases blank : isBlank c with
    | false =>
      rw [gather_of_not_blank blank, List.filter_cons_of_pos (by simp [blank]), ← inductionHypothesis]
      rfl
    | true =>
      rw [gather_of_blank blank, List.filter_cons_of_neg (by simp [blank]), ← inductionHypothesis]
      exact gathered_flatten _

/-- What has been gathered of a text: a run at its front, and words in it. -/
structure IsGathered (text : List Char) (state : List Char × List (List Char)) : Prop where
  front : state.1 <+: text
  solidFront : ∀ c ∈ state.1, isBlank c = false
  inside : ∀ word ∈ state.2, word <:+: text
  present : ∀ word ∈ state.2, word ≠ []
  solid : ∀ word ∈ state.2, ∀ c ∈ word, isBlank c = false

theorem IsGathered.mem_gathered {text : List Char} {state : List Char × List (List Char)}
    (is : IsGathered text state) {word : List Char} (member : word ∈ gathered state) :
    word ≠ [] ∧ (∀ c ∈ word, isBlank c = false) ∧ word <:+: text := by
  simp only [gathered] at member
  split at member
  · exact ⟨is.present word member, is.solid word member, is.inside word member⟩
  · rename_i nonempty
    obtain rfl | member := List.mem_cons.mp member
    · exact ⟨by simpa using nonempty, is.solidFront, is.front.isInfix⟩
    · exact ⟨is.present word member, is.solid word member, is.inside word member⟩

theorem isGathered (text : List Char) : IsGathered text (text.foldr gather ([], [])) := by
  induction text with
  | nil => exact ⟨List.nil_prefix, nofun, nofun, nofun, nofun⟩
  | cons c rest inductionHypothesis =>
    have behind {word : List Char} (inside : word <:+: rest) : word <:+: c :: rest :=
      inside.trans (List.suffix_cons c rest).isInfix
    rw [List.foldr_cons]
    cases blank : isBlank c with
    | false =>
      rw [gather_of_not_blank blank]
      refine ⟨List.cons_prefix_cons.mpr ⟨rfl, inductionHypothesis.front⟩, ?_,
        fun word member => behind (inductionHypothesis.inside word member),
        inductionHypothesis.present, inductionHypothesis.solid⟩
      exact List.forall_mem_cons.mpr ⟨blank, inductionHypothesis.solidFront⟩
    | true =>
      rw [gather_of_blank blank]
      have known {word : List Char} (member : word ∈ gathered (rest.foldr gather ([], []))) :=
        inductionHypothesis.mem_gathered member
      exact ⟨List.nil_prefix, nofun, fun word member => behind (known member).2.2,
        fun word member => (known member).1, fun word member => (known member).2.1⟩

/-- A word is a part of the text that is not empty and has no blanks. -/
theorem mem_words {text word : List Char} (member : word ∈ words text) :
    word ≠ [] ∧ (∀ c ∈ word, isBlank c = false) ∧ word <:+: text :=
  (isGathered text).mem_gathered member

theorem fields_cons_of_ne {separator c : Char} (different : c ≠ separator) (rest : List Char) :
    fields separator (c :: rest) = (fields separator rest).modifyHead (c :: ·) := by
  rw [fields, if_neg different]
  split
  · rename_i noFields
    exact absurd noFields (fields_ne_nil separator rest)
  · rename_i first others parts
    rw [parts]
    rfl

/-- A text without separators belongs to the first part of what follows it. -/
theorem fields_append_of_not_mem {separator : Char} {front : List Char} (absent : separator ∉ front)
    (rest : List Char) :
    fields separator (front ++ rest) = (fields separator rest).modifyHead (front ++ ·) := by
  induction front with
  | nil => cases h : fields separator rest <;> simp [h]
  | cons c front inductionHypothesis =>
    obtain ⟨different, absent⟩ := not_or.mp (mt List.mem_cons.mpr absent)
    rw [List.cons_append, fields_cons_of_ne (Ne.symm different), inductionHypothesis absent,
      List.modifyHead_modifyHead]
    rfl

theorem fields_of_not_mem {separator : Char} {text : List Char} (absent : separator ∉ text) :
    fields separator text = [text] := by
  simpa [fields] using fields_append_of_not_mem absent []

theorem fields_append {separator : Char} {front : List Char} (absent : separator ∉ front)
    (rest : List Char) : fields separator (front ++ separator :: rest) = front :: fields separator rest := by
  simp [fields_append_of_not_mem absent, fields]

/-- A text is one part, or a part, a separator and a shorter text: what holds of all parts can be shown
from part to part. -/
theorem fields_induction (separator : Char) {motive : List Char → Prop}
    (last : ∀ text, separator ∉ text → motive text)
    (next : ∀ front rest, separator ∉ front → motive rest → motive (front ++ separator :: rest))
    (text : List Char) : motive text := by
  by_cases present : separator ∈ text
  · obtain ⟨front, rest, whole, absent⟩ := List.eq_append_cons_of_mem present
    have shorter : rest.length < text.length := by simp [whole]; omega
    rw [whole]
    exact next front rest absent (fields_induction separator last next rest)
  · exact last text present
termination_by text.length

theorem not_mem_of_mem_fields {separator : Char} {text : List Char} :
    ∀ part ∈ fields separator text, separator ∉ part := by
  induction text using fields_induction separator with
  | last text absent =>
    rw [fields_of_not_mem absent]
    exact fun part member => List.mem_singleton.mp member ▸ absent
  | next front rest absent inductionHypothesis =>
    rw [fields_append absent]
    exact List.forall_mem_cons.mpr ⟨absent, inductionHypothesis⟩

/-- The words of a text are those of its parts, when parts end at a blank. -/
theorem flatMap_words_fields {separator : Char} (blank : isBlank separator = true) (text : List Char) :
    (fields separator text).flatMap words = words text := by
  induction text using fields_induction separator with
  | last text absent => simp [fields_of_not_mem absent]
  | next front rest absent inductionHypothesis =>
    rw [fields_append absent, List.flatMap_cons, inductionHypothesis, words_append_of_blank blank]

end Dashboard.Text
