import Dashboard.Proofs.Text.Words
import Dashboard.Text.Wrap
import Mathlib.Data.List.Forall2

/-! Wrapping loses nothing and puts nothing together that was on different lines. Every line is set by
itself: as one chunk if it fits, else word by word, where only words that are wider than a chunk are
cut. -/

namespace Dashboard.Text

theorem pieces_of_le {size : Nat} {text : List Char} (fits : text.length ≤ size) :
    pieces size text = [text] := by
  rw [pieces, dif_pos (Or.inr fits)]

theorem pieces_flatten (size : Nat) (text : List Char) : (pieces size text).flatten = text := by
  fun_induction pieces size text with
  | case1 text fits => simp
  | case2 text wide inductionHypothesis =>
    rw [List.flatten_cons, inductionHypothesis, List.take_append_drop]

theorem length_of_mem_pieces {size : Nat} (positive : 0 < size) (text : List Char) :
    ∀ piece ∈ pieces size text, piece.length ≤ size := by
  fun_induction pieces size text with
  | case1 text fits =>
    intro piece member
    obtain rfl := List.mem_singleton.mp member
    omega
  | case2 text wide inductionHypothesis =>
    rw [List.forall_mem_cons]
    exact ⟨List.length_take_le _ _, inductionHypothesis⟩

theorem ne_nil_of_mem_pieces {size : Nat} {text : List Char} (present : text ≠ []) :
    ∀ piece ∈ pieces size text, piece ≠ [] := by
  fun_induction pieces size text with
  | case1 text fits => exact fun piece member => List.mem_singleton.mp member ▸ present
  | case2 text wide inductionHypothesis =>
    obtain ⟨positive, long⟩ := not_or.mp wide
    have first : text.take size ≠ [] := by
      simp [present, positive]
    have rest : text.drop size ≠ [] := by
      simp only [ne_eq, List.drop_eq_nil_iff]
      exact long
    exact List.forall_mem_cons.mpr ⟨first, inductionHypothesis rest⟩

theorem flatMap_words_pieces {size : Nat} {word : List Char} (present : word ≠ [])
    (solid : ∀ c ∈ word, isBlank c = false) :
    (pieces size word).flatMap words = pieces size word := by
  have alone : ∀ piece ∈ pieces size word, words piece = [piece] := by
    intro piece member
    apply words_of_solid (ne_nil_of_mem_pieces present piece member)
    intro c inside
    apply solid
    rw [← pieces_flatten size word]
    exact List.mem_flatten_of_mem member inside
  rw [List.flatMap_congr alone, List.flatMap_singleton']

namespace Filling

/-- What a placed word adds to the chunks: itself if it fits in a chunk, else its pieces. -/
theorem words_close_place {width : Nat} {word : List Char} (present : word ≠ [])
    (solid : ∀ c ∈ word, isBlank c = false) (filling : Filling) :
    (filling.place width word).close.flatMap words =
      filling.close.flatMap words ++ pieces width word := by
  have alone := words_of_solid present solid
  rw [place]
  split
  · simp [close, flatMap_words_pieces present solid]
  rename_i narrow
  rw [pieces_of_le (Nat.le_of_not_lt narrow)]
  split
  · rename_i unfilled
    simp [close, unfilled, present, alone]
  rename_i filled
  have blank : isBlank ' ' = true := by decide
  split
  · simp [close, filled, words_append_of_blank blank, alone]
  · simp [close, filled, present, alone]

theorem words_close_foldl {width : Nat} {added : List (List Char)}
    (proper : ∀ word ∈ added, word ≠ [] ∧ ∀ c ∈ word, isBlank c = false) (filling : Filling) :
    (added.foldl (place width) filling).close.flatMap words =
      filling.close.flatMap words ++ added.flatMap (pieces width) := by
  induction added generalizing filling with
  | nil => simp
  | cons word rest inductionHypothesis =>
    obtain ⟨⟨present, solid⟩, others⟩ := List.forall_mem_cons.mp proper
    rw [List.foldl_cons, inductionHypothesis others, words_close_place present solid,
      List.flatMap_cons, List.append_assoc]

end Filling

/-- A chunk that fits on a line of its own. -/
structure IsChunk (width : Nat) (chunk : List Char) : Prop where
  narrow : chunk.length ≤ width
  unbroken : '\n' ∉ chunk

theorem not_mem_of_solid {word : List Char} (solid : ∀ c ∈ word, isBlank c = false) : '\n' ∉ word := by
  intro present
  cases solid '\n' present

theorem isChunk_of_mem_pieces {width : Nat} (positive : 0 < width) {word : List Char}
    (solid : ∀ c ∈ word, isBlank c = false) :
    ∀ piece ∈ pieces width word, IsChunk width piece := by
  intro piece member
  refine ⟨length_of_mem_pieces positive word piece member, fun broken => ?_⟩
  apply not_mem_of_solid solid
  rw [← pieces_flatten width word]
  exact List.mem_flatten_of_mem member broken

namespace Filling

theorem forall_mem_close {holds : List Char → Prop} {filling : Filling} (blank : holds []) :
    (∀ chunk ∈ filling.close, holds chunk) ↔
      (∀ chunk ∈ filling.finished, holds chunk) ∧ holds filling.current := by
  simp only [close]
  split
  · rename_i unfilled
    simp [List.isEmpty_iff.mp unfilled, blank]
  · rw [List.forall_mem_append, List.forall_mem_singleton]

theorem isChunk_place {width : Nat} (positive : 0 < width) {word : List Char}
    (solid : ∀ c ∈ word, isBlank c = false) {filling : Filling}
    (chunks : ∀ chunk ∈ filling.close, IsChunk width chunk) :
    ∀ chunk ∈ (filling.place width word).close, IsChunk width chunk := by
  have blank : IsChunk width [] := ⟨Nat.zero_le _, List.not_mem_nil⟩
  have unbroken := not_mem_of_solid solid
  obtain ⟨finished, current⟩ := (forall_mem_close blank).mp chunks
  rw [forall_mem_close blank, place]
  split
  · exact ⟨List.forall_mem_append.mpr ⟨chunks, isChunk_of_mem_pieces positive solid⟩, blank⟩
  rename_i narrow
  have alone : IsChunk width word := ⟨Nat.le_of_not_lt narrow, unbroken⟩
  split
  · exact ⟨finished, alone⟩
  split
  · rename_i fits
    refine ⟨finished, ?_, ?_⟩
    · simp only [List.length_append, List.length_cons]
      omega
    · simp [current.unbroken, unbroken]
  · exact ⟨List.forall_mem_append.mpr ⟨finished, List.forall_mem_singleton.mpr current⟩, alone⟩

theorem isChunk_foldl {width : Nat} (positive : 0 < width) {added : List (List Char)}
    (solid : ∀ word ∈ added, ∀ c ∈ word, isBlank c = false) {filling : Filling}
    (chunks : ∀ chunk ∈ filling.close, IsChunk width chunk) :
    ∀ chunk ∈ (added.foldl (place width) filling).close, IsChunk width chunk := by
  induction added generalizing filling with
  | nil => exact chunks
  | cons word rest inductionHypothesis =>
    obtain ⟨first, others⟩ := List.forall_mem_cons.mp solid
    exact inductionHypothesis others (isChunk_place positive first chunks)

end Filling

/-- How a line is set: its words in their order, those that are too wide for a chunk in pieces, and the
line as it is if it fits. -/
structure IsSetAs (width : Nat) (line : List Char) (chunks : List (List Char)) : Prop where
  words : chunks.flatMap words = (words line).flatMap (pieces width)
  whole : line.length ≤ width → chunks = [line]

theorem flatMap_pieces_of_le {width : Nat} {added : List (List Char)}
    (narrow : ∀ word ∈ added, word.length ≤ width) : added.flatMap (pieces width) = added := by
  rw [List.flatMap_congr fun word member => pieces_of_le (narrow word member), List.flatMap_singleton']

theorem wrapLine_isSetAs (width : Nat) (line : List Char) :
    IsSetAs width line (wrapLine width line) := by
  by_cases fits : line.length ≤ width
  · have narrow : ∀ word ∈ Text.words line, word.length ≤ width := fun word member =>
      Nat.le_trans (mem_words member).2.2.length_le fits
    rw [wrapLine, if_pos fits]
    exact ⟨by simp [flatMap_pieces_of_le narrow], fun _ => rfl⟩
  · rw [wrapLine, if_neg fits]
    refine ⟨?_, fun narrow => absurd narrow fits⟩
    exact Filling.words_close_foldl
      (fun word member => ⟨(mem_words member).1, (mem_words member).2.1⟩) Filling.start

theorem isChunk_of_mem_wrapLine {width : Nat} (positive : 0 < width) {line : List Char}
    (unbroken : '\n' ∉ line) : ∀ chunk ∈ wrapLine width line, IsChunk width chunk := by
  rw [wrapLine]
  split
  · rename_i fits
    exact List.forall_mem_singleton.mpr ⟨fits, unbroken⟩
  · exact Filling.isChunk_foldl positive (fun word member => (mem_words member).2.1) nofun

theorem wrap_eq (width : Nat) (message : List Char) :
    wrap width message = ((fields '\n' message).map (wrapLine width)).flatten ∨
      ((fields '\n' message).map (wrapLine width)).flatten = [] ∧ wrap width message = [[]] := by
  rw [wrap, ← List.flatMap_def]
  split
  · rename_i noChunks
    exact .inr ⟨noChunks, rfl⟩
  · exact .inl rfl

theorem wrap_ne_nil (width : Nat) (message : List Char) : wrap width message ≠ [] := by
  rw [wrap]
  split
  · nofun
  · rename_i present
    exact present

theorem isChunk_of_mem_wrap {width : Nat} (positive : 0 < width) (message : List Char) :
    ∀ chunk ∈ wrap width message, IsChunk width chunk := by
  intro chunk member
  obtain same | ⟨-, same⟩ := wrap_eq width message
  · rw [same, List.mem_flatten] at member
    obtain ⟨set, present, inside⟩ := member
    obtain ⟨line, isLine, rfl⟩ := List.mem_map.mp present
    exact isChunk_of_mem_wrapLine positive (not_mem_of_mem_fields line isLine) chunk inside
  · rw [same] at member
    obtain rfl := List.mem_singleton.mp member
    exact ⟨Nat.zero_le _, List.not_mem_nil⟩

/-- The lines of a message are set one after another. If all of them are blank and too wide, the first
stands as an empty chunk. -/
theorem exists_isSetAs (width : Nat) (message : List Char) :
    ∃ sets, wrap width message = sets.flatten ∧
      List.Forall₂ (IsSetAs width) (fields '\n' message) sets := by
  have each : List.Forall₂ (IsSetAs width) (fields '\n' message)
      ((fields '\n' message).map (wrapLine width)) := by
    rw [List.forall₂_map_right_iff, List.forall₂_same]
    exact fun line _ => wrapLine_isSetAs width line
  obtain same | ⟨noChunks, same⟩ := wrap_eq width message
  · exact ⟨_, same, each⟩
  · obtain ⟨line, lines, isLines⟩ := List.exists_cons_of_ne_nil (fields_ne_nil '\n' message)
    rw [isLines] at each noChunks ⊢
    obtain ⟨noSet, others⟩ := List.append_eq_nil_iff.mp noChunks
    have first := (List.forall₂_cons.mp each).1
    have later := (List.forall₂_cons.mp each).2
    rw [noSet] at first
    refine ⟨[[]] :: lines.map (wrapLine width), ?_, .cons ⟨?_, fun fits => ?_⟩ later⟩
    · rw [same, List.flatten_cons, others]
      rfl
    · exact first.words
    · cases first.whole fits

/-- The words of the chunks are those of the message. -/
theorem flatMap_words_wrap (width : Nat) (message : List Char) :
    (wrap width message).flatMap words = (words message).flatMap (pieces width) := by
  obtain ⟨sets, same, each⟩ := exists_isSetAs width message
  have blank : isBlank '\n' = true := by decide
  rw [same, ← flatMap_words_fields blank message]
  clear same
  generalize fields '\n' message = lines at each
  induction each with
  | nil => rfl
  | cons set _ inductionHypothesis =>
    simp only [List.flatten_cons, List.flatMap_append, List.flatMap_cons, set.words,
      inductionHypothesis]

theorem flatten_flatMap_words (texts : List (List Char)) :
    (texts.flatMap words).flatten = texts.flatten.filter (!isBlank ·) := by
  induction texts with
  | nil => rfl
  | cons text rest inductionHypothesis =>
    rw [List.flatMap_cons, List.flatten_append, inductionHypothesis, words_flatten, List.flatten_cons,
      List.filter_append]

theorem flatten_flatMap_pieces (size : Nat) (texts : List (List Char)) :
    (texts.flatMap (pieces size)).flatten = texts.flatten := by
  induction texts with
  | nil => rfl
  | cons text rest inductionHypothesis =>
    rw [List.flatMap_cons, List.flatten_append, inductionHypothesis, pieces_flatten, List.flatten_cons]

theorem filter_flatten_wrap (width : Nat) (message : List Char) :
    (wrap width message).flatten.filter (!isBlank ·) = message.filter (!isBlank ·) := by
  rw [← flatten_flatMap_words, flatMap_words_wrap, flatten_flatMap_pieces, words_flatten]

/-- A message is wrapped into at least one chunk, none too wide and none with a line break. The chunks have the
words of the message in its order, whole if they are no wider than a chunk and else in pieces, and so its
characters without the blanks. They belong to its lines one after another: a line that fits is a chunk as
it is, and no chunk has words of two lines. -/
theorem wrap_conserves (width : Nat) (message : List Char) (positive : 0 < width) :
    let chunks := wrap width message
    chunks ≠ [] ∧ (∀ chunk ∈ chunks, chunk.length ≤ width ∧ '\n' ∉ chunk) ∧
      chunks.flatten.filter (!isBlank ·) = message.filter (!isBlank ·) ∧
      chunks.flatMap words = (words message).flatMap (pieces width) ∧
      (∀ word ∈ words message, word.length ≤ width →
        ∃ chunk ∈ chunks, word ∈ words chunk ∧ word <:+: chunk) ∧
      ∃ sets, chunks = sets.flatten ∧ List.Forall₂ (IsSetAs width) (fields '\n' message) sets := by
  intro chunks
  refine ⟨wrap_ne_nil width message, ?_, filter_flatten_wrap width message,
    flatMap_words_wrap width message, ?_, exists_isSetAs width message⟩
  · intro chunk member
    have fits := isChunk_of_mem_wrap positive message chunk member
    exact ⟨fits.narrow, fits.unbroken⟩
  · intro word member narrow
    have kept : word ∈ chunks.flatMap words := by
      rw [flatMap_words_wrap, List.mem_flatMap]
      exact ⟨word, member, by simp [pieces_of_le narrow]⟩
    obtain ⟨chunk, present, inside⟩ := List.mem_flatMap.mp kept
    exact ⟨chunk, present, inside, (mem_words inside).2.2⟩

/-- A blank line that is too wide is left out, one that fits is kept; the word in front is cut, the others are
not. -/
theorem wrap_conserves_of_lines :
    wrap 4 "abcdefghij  k lm\n      \n  \nn".toList =
        ["abcd".toList, "efgh".toList, "ij".toList, "k lm".toList, "  ".toList, "n".toList] ∧
      ∃ chunk ∈ wrap 4 "abcdefghij  k lm\n      \n  \nn".toList, "lm".toList <:+: chunk := by
  refine ⟨by decide +kernel, ?_⟩
  obtain ⟨-, -, -, -, kept, -⟩ :=
    wrap_conserves 4 "abcdefghij  k lm\n      \n  \nn".toList (by decide)
  obtain ⟨chunk, member, -, inside⟩ := kept "lm".toList (by decide +kernel) (by decide)
  exact ⟨chunk, member, inside⟩

end Dashboard.Text
