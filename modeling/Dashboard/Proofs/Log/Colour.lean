import Dashboard.Log.Line
import Dashboard.Proofs.Association
import Dashboard.Proofs.Json.Numeral
import Dashboard.Proofs.Text.Wrap

/-! Colours never change the layout. A coloured text differs from the plain one by escape sequences between
its characters; `strip` takes exactly these away, so that the width of the head, and with it every place
where a message is wrapped, is that of the plain text. -/

namespace Dashboard

namespace Text.Uppercase

theorem eq_of_ofNat_eq_escape {code : Nat} (same : Char.ofNat code = Log.escape) : code = 27 := by
  by_cases valid : code.isValidChar
  · rw [Char.ofNat, dif_pos valid] at same
    exact congrArg Char.toNat same
  · rw [Char.ofNat, dif_neg valid] at same
    cases same

theorem toUpper_ne_escape : ∀ code < 128, code ≠ 27 → (Char.ofNat code).toUpper ≠ Log.escape := by
  decide

theorem expansions_ne_escape :
    ∀ entry ∈ expansions, ∀ part ∈ entry.2, Char.ofNat part ≠ Log.escape := by
  decide +kernel

theorem runs_beyond_escape : ∀ run ∈ runs, 27 < (run.first : Int) + run.offset := by
  decide +kernel

/-- No letter has the escape character in its upper case. -/
theorem escape_not_mem_letter {c : Char} (free : c ≠ Log.escape) : Log.escape ∉ letter c := by
  have code : c.toNat ≠ 27 := fun same => free (Char.toNat_inj.mp same)
  simp only [letter]
  split
  · rename_i ascii
    have upper := toUpper_ne_escape c.toNat ascii code
    rw [Char.ofNat_toNat] at upper
    exact fun present => upper (List.mem_singleton.mp present).symm
  split
  · rename_i parts found
    intro present
    obtain ⟨part, member, same⟩ := List.mem_map.mp present
    exact expansions_ne_escape _ (Association.mem_of_lookup found) part member same
  split
  · rename_i run found
    have covered : run.covers c.toNat = true :=
      List.find?_some (p := fun run : Run => run.covers c.toNat) found
    have beyond := runs_beyond_escape run (List.mem_of_find?_eq_some found)
    simp only [Run.covers, Bool.and_eq_true, decide_eq_true_eq] at covered
    intro present
    have same := eq_of_ofNat_eq_escape (List.mem_singleton.mp present).symm
    omega
  · exact fun present => free (List.mem_singleton.mp present).symm

theorem escape_not_mem_text {source : List Char} (free : Log.escape ∉ source) :
    Log.escape ∉ text source := by
  intro present
  obtain ⟨c, member, inside⟩ := List.mem_flatMap.mp present
  exact escape_not_mem_letter (fun same => free (same ▸ member)) inside

end Text.Uppercase

namespace Log

/-- Whether a coloured text is a plain one with escape sequences between its characters. -/
inductive Colours : List Char → List Char → Prop where
  | nil : Colours [] []
  | char {c : Char} {coloured plain : List Char} (free : c ≠ escape) (rest : Colours coloured plain) :
      Colours (c :: coloured) (c :: plain)
  | sequence {codes coloured plain : List Char}
      (inside : ∀ c ∈ codes, c ≠ escape ∧ c ≠ 'm' ∧ c ≠ '\n') (rest : Colours coloured plain) :
      Colours (escape :: (codes ++ 'm' :: coloured)) plain

namespace Colours

variable {coloured plain : List Char}

theorem of_free {text : List Char} (free : escape ∉ text) : Colours text text := by
  induction text with
  | nil => exact .nil
  | cons c rest inductionHypothesis =>
    obtain ⟨different, behind⟩ := not_or.mp (mt List.mem_cons.mpr free)
    exact .char (Ne.symm different) (inductionHypothesis behind)

theorem append {more others : List Char} (first : Colours coloured plain)
    (second : Colours more others) : Colours (coloured ++ more) (plain ++ others) := by
  induction first with
  | nil => exact second
  | char free _ inductionHypothesis => exact .char free inductionHypothesis
  | sequence inside _ inductionHypothesis =>
    rw [List.cons_append, List.append_assoc, List.cons_append]
    exact .sequence inside inductionHypothesis

theorem modifyHead {before after : List Char → List Char} {first second : List (List Char)}
    (each : List.Forall₂ Colours first second)
    (changed : ∀ coloured plain, Colours coloured plain → Colours (before coloured) (after plain)) :
    List.Forall₂ Colours (first.modifyHead before) (second.modifyHead after) := by
  cases each with
  | nil => exact .nil
  | cons colours others => exact .cons (changed _ _ colours) others

/-- The lines of a coloured text are those of the plain one, each coloured. -/
theorem fields (colours : Colours coloured plain) :
    List.Forall₂ Colours (Text.fields '\n' coloured) (Text.fields '\n' plain) := by
  induction colours with
  | nil => exact .cons .nil .nil
  | @char c coloured plain free _ inductionHypothesis =>
    by_cases ends : c = '\n'
    · simp only [Text.fields, if_pos ends]
      exact .cons .nil inductionHypothesis
    · rw [Text.fields_cons_of_ne ends, Text.fields_cons_of_ne ends]
      exact modifyHead inductionHypothesis fun _ _ => .char free
  | @sequence codes coloured plain inside _ inductionHypothesis =>
    -- A sequence has no line break, so all of it belongs to the first line of what follows.
    have unbroken : '\n' ∉ escape :: (codes ++ ['m']) := by
      simp only [List.mem_cons, List.mem_append, not_or]
      exact ⟨by decide, fun present => (inside '\n' present).2.2 rfl, by decide, List.not_mem_nil⟩
    have whole (text : List Char) : escape :: (codes ++ 'm' :: text) =
        escape :: (codes ++ ['m']) ++ text := by
      simp
    have same : Text.fields '\n' plain = (Text.fields '\n' plain).modifyHead id := by simp
    rw [whole, Text.fields_append_of_not_mem unbroken, same]
    refine modifyHead inductionHypothesis fun text _ colours => ?_
    rw [← whole]
    exact .sequence inside colours

end Colours

/-- What `strip` makes of one more character: whether it is in a sequence, and what it has kept. -/
def stripStep (state : Bool × List Char) (c : Char) : Bool × List Char :=
  if c = escape then (true, state.2)
  else if state.1 then (c ≠ 'm', state.2)
  else (false, c :: state.2)

theorem strip_eq_foldl (text : List Char) :
    strip text = (text.foldl stripStep (false, [])).2.reverse := rfl

theorem foldl_stripStep_codes {codes : List Char}
    (inside : ∀ c ∈ codes, c ≠ escape ∧ c ≠ 'm' ∧ c ≠ '\n') (kept : List Char) :
    codes.foldl stripStep (true, kept) = (true, kept) := by
  induction codes with
  | nil => rfl
  | cons c rest inductionHypothesis =>
    obtain ⟨⟨free, notLast, -⟩, others⟩ := List.forall_mem_cons.mp inside
    have stays : stripStep (true, kept) c = (true, kept) := by
      simp [stripStep, free, notLast]
    rw [List.foldl_cons, stays, inductionHypothesis others]

theorem Colours.foldl_stripStep {coloured plain : List Char} (colours : Colours coloured plain)
    (kept : List Char) : coloured.foldl stripStep (false, kept) = (false, plain.reverse ++ kept) := by
  induction colours generalizing kept with
  | nil => rfl
  | @char c coloured plain free _ inductionHypothesis =>
    have keeps : stripStep (false, kept) c = (false, c :: kept) := by
      simp [stripStep, free]
    rw [List.foldl_cons, keeps, inductionHypothesis]
    simp
  | sequence inside _ inductionHypothesis =>
    have opens : stripStep (false, kept) escape = (true, kept) := by
      simp [stripStep]
    have closes : stripStep (true, kept) 'm' = (false, kept) := by
      simp [stripStep, escape]
    rw [List.foldl_cons, opens, List.foldl_append, foldl_stripStep_codes inside, List.foldl_cons, closes,
      inductionHypothesis]

/-- Without its escape sequences a coloured text is the plain one. -/
theorem Colours.strip {coloured plain : List Char} (colours : Colours coloured plain) :
    strip coloured = plain := by
  rw [strip_eq_foldl, colours.foldl_stripStep]
  simp

theorem mem_codes {colour : Colour} {c : Char} (present : c ∈ colour.codes) :
    c.isDigit = true ∨ c = ';' := by
  fun_induction Colour.codes colour with
  | case1 => cases present
  | case2 code => exact .inl (Json.toDigits_isDigit present)
  | case3 code rest _ inductionHypothesis =>
    obtain digit | behind := List.mem_append.mp present
    · exact .inl (Json.toDigits_isDigit digit)
    · obtain same | later := List.mem_cons.mp behind
      · exact .inr same
      · exact inductionHypothesis later

theorem colours_paint (coloured : Bool) (colour : Colour) {text : List Char} (free : escape ∉ text) :
    Colours (paint coloured colour text) text := by
  cases coloured with
  | false => exact .of_free free
  | true =>
    have codes : ∀ c ∈ '[' :: colour.codes, c ≠ escape ∧ c ≠ 'm' ∧ c ≠ '\n' := by
      rw [List.forall_mem_cons]
      refine ⟨by decide, fun c present => ⟨?_, ?_, ?_⟩⟩ <;>
      · rintro rfl
        obtain digit | same := mem_codes present
        · cases digit
        · cases same
    have zero : ∀ c ∈ ['[', '0'], c ≠ escape ∧ c ≠ 'm' ∧ c ≠ '\n' := by
      rw [List.forall_mem_cons, List.forall_mem_singleton]
      decide
    have reset : Colours [escape, '[', '0', 'm'] [] := .sequence zero .nil
    have painted := Colours.sequence codes ((Colours.of_free free).append reset)
    rw [List.append_nil] at painted
    simpa [paint] using painted

theorem escape_not_mem_padded {width : Nat} {text : List Char} (free : escape ∉ text) :
    escape ∉ padded width text := by
  simp only [padded, List.mem_append, List.mem_replicate, not_or, not_and]
  exact ⟨free, fun _ => by decide⟩

theorem mem_crateName {target : List Char} {c : Char} (present : c ∈ Tag.crateName target) :
    c ∈ target := by
  fun_induction Tag.crateName target with
  | case1 => cases present
  | case2 first rest _ inductionHypothesis =>
    obtain rfl | behind := List.mem_cons.mp present
    · exact List.mem_cons_self
    · exact List.mem_cons_of_mem _ (inductionHypothesis behind)
  | case3 => cases present

/-- Whether the text of a tag has no escape character. -/
def Tag.IsFree (tag : Tag) : Prop := ∀ target, tag = .library target → escape ∉ target.toList

theorem Tag.IsFree.label {tag : Tag} (free : tag.IsFree) : escape ∉ tag.label := by
  have known {key : String} (plain : escape ∉ key.toList) := Text.Uppercase.escape_not_mem_text plain
  cases tag with
  | library target =>
    exact Text.Uppercase.escape_not_mem_text fun present => free target rfl (mem_crateName present)
  | system | config | hub | rateLimit | cache | metrics | webserver => exact known (by decide)

theorem escape_not_mem_zeroPadded (width number : Nat) :
    escape ∉ (WallTime.zeroPadded width number).toList := by
  simp only [WallTime.zeroPadded, String.toList_ofList, List.mem_append, List.mem_replicate, not_or,
    not_and]
  refine ⟨fun _ => by decide, fun present => ?_⟩
  cases Json.toDigits_isDigit present

theorem escape_not_mem_clockText (time : WallTime) : escape ∉ time.clockText.toList := by
  have colon : escape ∉ ":".toList := by decide
  simp only [WallTime.clockText, String.toList_append, List.mem_append, not_or]
  exact ⟨⟨⟨⟨escape_not_mem_zeroPadded _ _, colon⟩, escape_not_mem_zeroPadded _ _⟩, colon⟩,
    escape_not_mem_zeroPadded _ _⟩

theorem colours_lineHead {tag : Tag} (free : tag.IsFree) (coloured : Bool) (time : WallTime)
    (level : Level) :
    Colours (lineHead coloured time tag level) (lineHead false time tag level) := by
  have clock : escape ∉ time.clockText.toList ++ [' '] := by
    simp only [List.mem_append, not_or]
    exact ⟨escape_not_mem_clockText time, by decide⟩
  have label : escape ∉ level.label.toList := by
    cases level <;> decide
  have between {text : List Char} (plain : escape ∉ text) := Colours.of_free plain
  simp only [lineHead, List.append_assoc, List.cons_append]
  refine (colours_paint coloured _ clock).append (.char (by decide) ?_)
  refine (colours_paint coloured _ (escape_not_mem_padded free.label)).append ?_
  refine (between (by decide)).append ?_
  exact (colours_paint coloured _ (escape_not_mem_padded label)).append (between (by decide))

theorem escape_not_mem_wrap {message : List Char} (free : escape ∉ message) (width : Nat) :
    ∀ chunk ∈ Text.wrap width message, escape ∉ chunk := by
  intro chunk member present
  have solid : (!Text.isBlank escape) = true := by decide
  have kept : escape ∈ (Text.wrap width message).flatten.filter (!Text.isBlank ·) :=
    List.mem_filter.mpr ⟨List.mem_flatten_of_mem member present, solid⟩
  rw [Text.filter_flatten_wrap] at kept
  exact free (List.mem_filter.mp kept).1

theorem map_strip {texts others : List (List Char)} (all : List.Forall₂ Colours texts others) :
    texts.map strip = others := by
  have same : List.Forall₂ (fun coloured plain => strip coloured = plain) texts others :=
    all.imp fun _ _ => Colours.strip
  rwa [← List.forall₂_map_left_iff, List.forall₂_eq_eq_eq] at same

section

variable {tag : Tag} (free : tag.IsFree) (time : WallTime) (level : Level) (message : List Char)
include free

/-- In either mode a message is wrapped in the room that the plain head leaves, and its further lines are
set under the first by blanks as wide as that head. -/
theorem printed_eq (coloured : Bool) :
    let width := (lineHead false time tag level).length
    ∃ first others, Text.wrap (messageWidth width) message = first :: others ∧
      printed coloured time tag level message = (lineHead coloured time tag level ++ first) ::
        others.map (List.replicate width ' ' ++ ·) := by
  intro width
  obtain ⟨first, others, wrapped⟩ :=
    List.exists_cons_of_ne_nil (Text.wrap_ne_nil (messageWidth width) message)
  have same : (strip (lineHead coloured time tag level)).length = width := by
    rw [(colours_lineHead free coloured time level).strip]
  exact ⟨first, others, wrapped, by simp only [printed, same, wrapped]⟩

/-- The lines of either mode are the plain lines, coloured. -/
theorem colours_printed (messageFree : escape ∉ message) (coloured : Bool) :
    List.Forall₂ Colours (printed coloured time tag level message)
      (printed false time tag level message) := by
  obtain ⟨first, others, wrapped, lines⟩ := printed_eq free time level message coloured
  obtain ⟨plainFirst, plainOthers, again, plainLines⟩ := printed_eq free time level message false
  obtain ⟨rfl, rfl⟩ := List.cons.inj (wrapped.symm.trans again)
  have chunkFree :=
    escape_not_mem_wrap messageFree (messageWidth (lineHead false time tag level).length)
  rw [wrapped, List.forall_mem_cons] at chunkFree
  rw [lines, plainLines]
  refine .cons ((colours_lineHead free coloured time level).append (.of_free chunkFree.1)) ?_
  refine List.forall₂_same.mpr fun line member => .of_free ?_
  obtain ⟨chunk, present, rfl⟩ := List.mem_map.mp member
  simp only [List.mem_append, List.mem_replicate, not_or, not_and]
  exact ⟨fun _ => by decide, chunkFree.2 chunk present⟩

theorem length_of_mem_printed :
    ∀ line ∈ printed false time tag level message,
      line.length ≤ max 145 ((lineHead false time tag level).length + 50) := by
  obtain ⟨first, others, wrapped, lines⟩ := printed_eq free time level message false
  have room : 0 < messageWidth (lineHead false time tag level).length :=
    Nat.lt_of_lt_of_le (by decide) (Nat.le_max_right _ 50)
  have narrow := Text.isChunk_of_mem_wrap room message
  rw [wrapped, List.forall_mem_cons] at narrow
  have bound {chunk : List Char}
      (fits : chunk.length ≤ messageWidth (lineHead false time tag level).length) :
      (lineHead false time tag level).length + chunk.length ≤
        max 145 ((lineHead false time tag level).length + 50) := by
    simp only [messageWidth, lineWidth] at fits
    omega
  rw [lines, List.forall_mem_cons]
  refine ⟨by simpa using bound narrow.1.narrow, fun line member => ?_⟩
  obtain ⟨chunk, present, rfl⟩ := List.mem_map.mp member
  simpa using bound (narrow.2 chunk present).narrow

theorem replicate_prefix_of_mem_tail (coloured : Bool) :
    ∀ line ∈ (printed coloured time tag level message).tail,
      List.replicate (lineHead false time tag level).length ' ' <+: line := by
  obtain ⟨first, others, -, lines⟩ := printed_eq free time level message coloured
  rw [lines]
  intro line member
  obtain ⟨chunk, -, rfl⟩ := List.mem_map.mp member
  exact List.prefix_append _ _

end

/-- With colours a message is printed in as many lines as without, and they are those lines but for the escape
sequences, also where the name of a library breaks a head in two. In both modes a line is no wider than
145 characters or 50 behind the head, and all lines but the first start with blanks as wide as the head. -/
theorem layout_of_colours (time : WallTime) (tag : Tag) (level : Level) (message : List Char)
    (tagFree : tag.IsFree) (messageFree : escape ∉ message) :
    let width := (lineHead false time tag level).length
    let plain := printed false time tag level message
    let coloured := printed true time tag level message
    plain ≠ [] ∧ coloured.length = plain.length ∧ coloured.map strip = plain ∧
      (coloured.flatMap (Text.fields '\n')).map strip = plain.flatMap (Text.fields '\n') ∧
      (∀ line ∈ plain ++ coloured, (strip line).length ≤ max 145 (width + 50)) ∧
      ∀ line ∈ plain.tail ++ coloured.tail, List.replicate width ' ' <+: line := by
  intro width plain coloured
  have each := colours_printed tagFree time level message messageFree
  have narrow := length_of_mem_printed tagFree time level message
  have fits (mode : Bool) : ∀ line ∈ printed mode time tag level message,
      (strip line).length ≤ max 145 (width + 50) := by
    intro line member
    apply narrow
    rw [← map_strip (each mode)]
    exact List.mem_map_of_mem member
  have under := replicate_prefix_of_mem_tail tagFree time level message
  refine ⟨?_, (each true).length_eq, map_strip (each true), ?_, ?_, ?_⟩
  · obtain ⟨first, others, -, lines⟩ := printed_eq tagFree time level message false
    rw [show plain = _ from lines]
    exact List.cons_ne_nil _ _
  · exact map_strip (List.rel_flatMap (each true) fun _ _ => Colours.fields)
  · exact List.forall_mem_append.mpr ⟨fits false, fits true⟩
  · exact List.forall_mem_append.mpr ⟨under false, under true⟩

/-- The name of a library grows to twice its length in capitals, so that only the least room is left for the
message. -/
theorem layout_of_colours_long_name :
    let tag : Tag := .library (String.ofList (List.replicate 80 'ß') ++ "::poll")
    let message := List.replicate 120 'x'
    (printed true ⟨0⟩ tag .warning message).length = 3 ∧
      (printed true ⟨0⟩ tag .warning message).map strip = printed false ⟨0⟩ tag .warning message := by
  intro tag message
  have tagFree : tag.IsFree := by
    intro target same
    rw [← Tag.library.inj same]
    decide +kernel
  obtain ⟨-, -, same, -⟩ :=
    layout_of_colours ⟨0⟩ tag .warning message tagFree (by decide)
  exact ⟨by decide +kernel, same⟩

end Log
end Dashboard
