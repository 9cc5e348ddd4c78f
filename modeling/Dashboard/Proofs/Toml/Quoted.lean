import Dashboard.Toml.Scalar
import Dashboard.Toml.Text

namespace Dashboard.Toml

section

variable {p : Char → Bool} {front rest : List Char}

theorem takeWhile_front (all : ∀ c ∈ front, p c = true) (stops : ∀ c, rest.head? = some c → p c = false) :
    (front ++ rest).takeWhile p = front := by
  have stopped : rest.takeWhile p = [] := by
    cases rest with
    | nil => rfl
    | cons c rest => simp [stops c rfl]
  rw [List.takeWhile_append_of_pos all, stopped, List.append_nil]

theorem dropWhile_front (all : ∀ c ∈ front, p c = true) (stops : ∀ c, rest.head? = some c → p c = false) :
    (front ++ rest).dropWhile p = rest := by
  have same : rest.dropWhile p = rest := by
    cases rest with
    | nil => rfl
    | cons c rest => simp [stops c rfl]
  rw [List.dropWhile_append_of_pos all, same]

end

theorem codePoint_append {c : Char} {count : Nat} {digits : List Char} (all : digits.length = count)
    (value : Text.Hex.value? digits = some c.toNat) (rest : List Char) :
    codePoint count (digits ++ rest) = some (c, rest) := by
  have valid : c.toNat.isValidChar := c.valid
  have enough : ¬ (digits ++ rest).length < count := by
    rw [List.length_append]
    omega
  have taken : (digits ++ rest).take count = digits := by rw [← all, List.take_left]
  have dropped : (digits ++ rest).drop count = rest := by rw [← all, List.drop_left]
  rw [codePoint, if_neg enough, taken, dropped]
  simp [value, scalar?, valid, Char.ofNat_toNat]

theorem escape_code (rest : List Char) : escape ('u' :: rest) = codePoint 4 rest := rfl

/-- The escape of a character without a letter is read as that character. -/
theorem escape_codeEscape {c : Char} (control : c.toNat < 32 ∨ c.toNat = 127) (rest : List Char) :
    escape ((codeEscape c).tail ++ rest) = some (c, rest) := by
  have written : ∀ code < 128, (codeEscape (Char.ofNat code)).take 2 = ['\\', 'u'] ∧
      ((codeEscape (Char.ofNat code)).drop 2).length = 4 ∧
      Text.Hex.value? ((codeEscape (Char.ofNat code)).drop 2) = some code := by
    decide +kernel
  obtain ⟨mark, four, value⟩ := written c.toNat (by omega)
  rw [Char.ofNat_toNat] at mark four value
  have shape : codeEscape c = '\\' :: 'u' :: (codeEscape c).drop 2 := by
    conv => lhs; rw [← List.take_append_drop 2 (codeEscape c), mark]
    rfl
  rw [shape, List.tail_cons, List.cons_append, escape_code]
  exact codePoint_append four value rest

theorem isPlain_of_not_isControl {c : Char} (plain : isControl c = false) (sameLine : c ≠ '\n') :
    isPlain c = true := by
  simp [isControl, isPlain, sameLine] at plain ⊢
  by_cases tab : c = '\t'
  · exact .inl tab
  · obtain ⟨least, notDelete⟩ := plain
    refine .inr ⟨?_, notDelete⟩
    by_cases small : c.toNat < 32
    · exact absurd (least small) tab
    · omega

theorem lineBreak?_eq_none {input : List Char} (noBreak : input.head? ≠ some '\n')
    (noReturn : input.head? ≠ some '\r') : lineBreak? input = none := by
  unfold lineBreak?
  split
  · exact absurd rfl noBreak
  · exact absurd rfl noReturn
  · rfl

/-- What stands for a character between double quotes. -/
inductive Written (isLong : Bool) (c : Char) : List Char → Prop
  | escape {name : List Char} (meant : ∀ rest, escape (name ++ rest) = some (c, rest)) :
    Written isLong c ('\\' :: name)
  | newline (long : isLong = true) (breaks : c = '\n') : Written isLong c [c]
  | quote (long : isLong = true) (quotes : c = '"') : Written isLong c [c]
  | plain (plain : isPlain c = true) (other : c ≠ '\\' ∧ c ≠ '"' ∧ c ≠ '\r' ∧ c ≠ '\n') :
    Written isLong c [c]

theorem escaped_written (isLong : Bool) (c : Char) : Written isLong c (escaped isLong c) := by
  have letter (name : Char) (meant : ∀ rest, escape (name :: rest) = some (c, rest)) :
      Written isLong c ['\\', name] := .escape meant
  unfold escaped
  split
  · rename_i same
    exact letter 'b' fun rest => by rw [same]; rfl
  · split
    · rename_i same
      exact letter 't' fun rest => by rw [same]; rfl
    · split
      · rename_i same
        split
        · rename_i long
          exact .newline long same
        · exact letter 'n' fun rest => by rw [same]; rfl
      · split
        · rename_i same
          exact letter 'f' fun rest => by rw [same]; rfl
        · split
          · rename_i same
            exact letter 'r' fun rest => by rw [same]; rfl
          · split
            · rename_i same
              split
              · rename_i long
                exact .quote long same
              · exact letter '"' fun rest => by rw [same]; rfl
            · split
              · rename_i same
                exact letter '\\' fun rest => by rw [same]; rfl
              · rename_i noTab noBreak _ noReturn noQuote noBackslash
                split
                · rename_i control
                  exact .escape (escape_codeEscape (by simpa using control))
                · rename_i visible
                  refine .plain ?_ ⟨noBackslash, noQuote, noReturn, noBreak⟩
                  simp [isPlain] at visible ⊢
                  exact .inr visible

theorem escaped_ne_nil (isLong : Bool) (c : Char) : 0 < (escaped isLong c).length := by
  have shape := escaped_written isLong c
  generalize escaped isLong c = written at shape ⊢
  cases shape <;> simp

/-- Where a quote needs an escape, and for every other character, no quote comes first. -/
theorem head_escaped {isLong : Bool} {c : Char} (noQuote : isLong = true → c ≠ '"')
    (rest : List Char) : (escaped isLong c ++ rest).head? ≠ some '"' := by
  have shape := escaped_written isLong c
  generalize escaped isLong c = written at shape ⊢
  cases shape with
  | escape meant => simp
  | newline long breaks => simp [breaks]
  | quote long quotes => exact absurd quotes (noQuote long)
  | plain plain other => simp [other.2.1]

/-- Only a line break that is left as it is starts with one. -/
theorem lineBreak?_escaped {isLong : Bool} {c : Char} (sameLine : c ≠ '\n') (rest : List Char) :
    lineBreak? (escaped isLong c ++ rest) = none := by
  have shape := escaped_written isLong c
  generalize escaped isLong c = written at shape ⊢
  cases shape with
  | escape meant => exact lineBreak?_eq_none (by simp) (by simp)
  | newline long breaks => exact absurd breaks sameLine
  | quote long quotes => exact lineBreak?_eq_none (by simp [quotes]) (by simp [quotes])
  | plain plain other => exact lineBreak?_eq_none (by simp [sameLine]) (by simp [other.2.2.1])

theorem basicRest_escaped (c : Char) (bound : Nat) (read rest : List Char) :
    basicRest (bound + 1) read (escaped false c ++ rest) = basicRest bound (c :: read) rest := by
  have shape := escaped_written false c
  generalize escaped false c = written at shape ⊢
  cases shape with
  | escape meant => simp [basicRest, meant]
  | newline long => cases long
  | quote long => cases long
  | plain plain other => simp [basicRest, plain, other.1, other.2.1]

theorem basicRest_flatMap {chars rest : List Char} {bound : Nat} (read : List Char)
    (enough : (chars.flatMap (escaped false) ++ '"' :: rest).length < bound) :
    basicRest bound read (chars.flatMap (escaped false) ++ '"' :: rest) =
      some (String.ofList (read.reverse ++ chars), rest) := by
  obtain ⟨fewer, rfl⟩ : ∃ fewer, bound = fewer + 1 := ⟨bound - 1, by omega⟩
  induction chars generalizing fewer read with
  | nil => simp [basicRest]
  | cons c chars inductionHypothesis =>
    rw [List.flatMap_cons, List.append_assoc] at enough ⊢
    have shorter := escaped_ne_nil false c
    rw [List.length_append] at enough
    obtain ⟨fewer, rfl⟩ : ∃ less, fewer = less + 1 := ⟨fewer - 1, by omega⟩
    have readOn := inductionHypothesis (c :: read) fewer (by omega)
    rw [basicRest_escaped, readOn, List.reverse_cons, List.append_assoc]
    rfl

theorem literalRest_append {chars : List Char}
    (plain : ∀ c ∈ chars, isPlain c = true ∧ c ≠ '\'') (rest : List Char) :
    literalRest (chars ++ '\'' :: rest) = some (String.ofList chars, rest) := by
  have inside : ∀ c ∈ chars, (isPlain c && c != '\'') = true := by
    intro c present
    obtain ⟨isPlain, noQuote⟩ := plain c present
    simp [isPlain, noQuote]
  have stops : ∀ c, ('\'' :: rest).head? = some c → (isPlain c && c != '\'') = false := by
    simp
  simp [literalRest, takeWhile_front inside stops, dropWhile_front inside stops]

theorem quotesAhead_replicate {quote : Char} {rest : List Char} (other : rest.head? ≠ some quote)
    (count : Nat) : quotesAhead quote (List.replicate count quote ++ rest) = count := by
  have stops : ∀ c, rest.head? = some c → (c == quote) = false := by
    intro c starts
    apply beq_eq_false_iff_ne.mpr
    rintro rfl
    exact other starts
  rw [quotesAhead, takeWhile_front (by simp) stops, List.length_replicate]

/-- Up to two quotes in front of something else belong to the text. -/
theorem longRest_quotes {quote : Char} {count bound : Nat} {rest : List Char} (hasEscapes : Bool)
    (read : List Char) (few : count < 3) (other : rest.head? ≠ some quote)
    (enough : (List.replicate count quote ++ rest).length < bound) :
    ∃ fewer, rest.length < fewer ∧
      longRest quote hasEscapes bound read (List.replicate count quote ++ rest) =
        longRest quote hasEscapes fewer (List.replicate count quote ++ read) rest := by
  cases count with
  | zero => exact ⟨bound, enough, rfl⟩
  | succ count =>
    obtain ⟨fewer, rfl⟩ : ∃ fewer, bound = fewer + 1 := ⟨bound - 1, by omega⟩
    refine ⟨fewer, ?_, ?_⟩
    · simp at enough
      omega
    · have ahead := quotesAhead_replicate other (count + 1)
      have dropped : (List.replicate (count + 1) quote ++ rest).drop (count + 1) = rest := by
        rw [List.drop_left' (List.length_replicate ..)]
      rw [List.replicate_succ, List.cons_append] at ahead dropped ⊢
      simp only [longRest, ahead, if_pos few, dropped]
      rfl

/-- Three quotes close a text, behind up to two of its own. -/
theorem longRest_close {quote : Char} {hasEscapes : Bool} {count bound : Nat} {read rest : List Char}
    (few : count < 3) (other : rest.head? ≠ some quote) (enough : 0 < bound) :
    longRest quote hasEscapes bound read (List.replicate count quote ++ (quote :: quote :: quote :: rest)) =
      some (String.ofList (read.reverse ++ List.replicate count quote), rest) := by
  obtain ⟨fewer, rfl⟩ : ∃ fewer, bound = fewer + 1 := ⟨bound - 1, by omega⟩
  have ahead := quotesAhead_replicate other (count + 3)
  have shape : List.replicate count quote ++ (quote :: quote :: quote :: rest) =
      List.replicate (count + 3) quote ++ rest := by
    rw [← List.replicate_append_replicate, List.append_assoc]
    rfl
  have dropped : (List.replicate (count + 3) quote ++ rest).drop (count + 3) = rest := by
    rw [List.drop_left' (List.length_replicate ..)]
  have own : min (count + 3 - 3) 2 = count := by omega
  rw [shape, List.replicate_succ, List.cons_append] at *
  simp only [longRest, ahead, if_neg (show ¬ count + 3 < 3 by omega), own, dropped]
  simp

/-- Any other character stands for itself, unless it starts an escape. -/
theorem longRest_plain {quote c : Char} {bound : Nat} {rest : List Char} (hasEscapes : Bool)
    (read : List Char) (noQuote : c ≠ quote) (noEscape : hasEscapes = true → c ≠ '\\')
    (plain : c = '\n' ∨ isPlain c = true ∧ c ≠ '\r' ∧ c ≠ '\n') (enough : (c :: rest).length < bound) :
    ∃ fewer, rest.length < fewer ∧
      longRest quote hasEscapes bound read (c :: rest) =
        longRest quote hasEscapes fewer (c :: read) rest := by
  obtain ⟨fewer, rfl⟩ : ∃ fewer, bound = fewer + 1 := ⟨bound - 1, by omega⟩
  refine ⟨fewer, by simpa using enough, ?_⟩
  have noMark : (hasEscapes && c = '\\') = false := by
    cases hasEscapes with
    | false => rfl
    | true => simpa using noEscape rfl
  rcases plain with rfl | ⟨isPlain, noReturn, noBreak⟩
  · simp [longRest, noQuote, lineBreak?]
  · have sameLine : lineBreak? (c :: rest) = none :=
      lineBreak?_eq_none (by simpa using noBreak) (by simpa using noReturn)
    simp [longRest, noQuote, noMark, sameLine, isPlain]

theorem longRest_escape {c : Char} {name : List Char} {bound : Nat} {rest : List Char}
    (read : List Char) (meant : ∀ rest, escape (name ++ rest) = some (c, rest))
    (enough : ('\\' :: (name ++ rest)).length < bound) :
    ∃ fewer, rest.length < fewer ∧
      longRest '"' true bound read ('\\' :: (name ++ rest)) =
        longRest '"' true fewer (c :: read) rest := by
  obtain ⟨fewer, rfl⟩ : ∃ fewer, bound = fewer + 1 := ⟨bound - 1, by omega⟩
  refine ⟨fewer, ?_, by simp [longRest, meant]⟩
  simp at enough
  omega

theorem longRest_escaped {c : Char} {bound : Nat} {rest : List Char} (read : List Char)
    (noQuote : c ≠ '"') (enough : (escaped true c ++ rest).length < bound) :
    ∃ fewer, rest.length < fewer ∧
      longRest '"' true bound read (escaped true c ++ rest) = longRest '"' true fewer (c :: read) rest := by
  have shape := escaped_written true c
  generalize escaped true c = written at shape enough ⊢
  cases shape with
  | escape meant => exact longRest_escape read meant enough
  | newline _ breaks => exact longRest_plain true read noQuote (fun _ => by simp [breaks]) (.inl breaks) enough
  | quote _ quotes => exact absurd quotes noQuote
  | plain plain other =>
    exact longRest_plain true read noQuote (fun _ => other.1) (.inr ⟨plain, other.2.2⟩) enough

/-- A text between long quotes with escapes, of which some quotes in a row are still to be taken. -/
theorem longRest_longEscaped {chars rest : List Char} {bound : Nat} (quotes : Nat)
    (read : List Char) (few : quotes < 3) (other : rest.head? ≠ some '"')
    (enough : (List.replicate quotes '"' ++
      (longEscaped quotes chars ++ '"' :: '"' :: '"' :: rest)).length < bound) :
    longRest '"' true bound read (List.replicate quotes '"' ++
        (longEscaped quotes chars ++ '"' :: '"' :: '"' :: rest)) =
      some (String.ofList (read.reverse ++ (List.replicate quotes '"' ++ chars)), rest) := by
  induction chars generalizing quotes bound read with
  | nil => rw [longEscaped, List.nil_append, longRest_close few other (by omega), List.append_nil]
  | cons c chars inductionHypothesis =>
    by_cases quote : c = '"'
    · subst quote
      by_cases third : quotes = 2
      · subst third
        -- a third quote in a row would close the text and is written as an escape
        have shape : longEscaped 2 ('"' :: chars) = '\\' :: (['"'] ++ longEscaped 0 chars) := rfl
        rw [shape, List.cons_append, List.append_assoc] at enough ⊢
        obtain ⟨fewer, enough, taken⟩ := longRest_quotes true read few
          (by simp) enough
        obtain ⟨fewer, enough, escaped⟩ := longRest_escape (c := '"')
          (List.replicate 2 '"' ++ read) (fun _ => rfl) enough
        have readOn := inductionHypothesis 0 ('"' :: (List.replicate 2 '"' ++ read)) (by omega)
          enough
        rw [List.replicate_zero, List.nil_append] at readOn
        rw [taken, escaped, readOn]
        simp
      · have shape : longEscaped quotes ('"' :: chars) = '"' :: longEscaped (quotes + 1) chars := by
          rw [longEscaped, if_pos rfl, if_neg third]
        -- one more quote that is still to be taken
        have moved (rest : List Char) : List.replicate quotes '"' ++ '"' :: rest =
            List.replicate (quotes + 1) '"' ++ rest := by
          rw [List.replicate_succ', List.append_assoc]
          rfl
        rw [shape, List.cons_append, moved] at enough ⊢
        rw [inductionHypothesis (quotes + 1) read (by omega) enough, moved]
    · have shape : longEscaped quotes (c :: chars) = escaped true c ++ longEscaped 0 chars := by
        rw [longEscaped, if_neg quote]
      rw [shape, List.append_assoc] at enough ⊢
      obtain ⟨fewer, enough, taken⟩ := longRest_quotes true read few
        (head_escaped (fun _ => quote) _) enough
      obtain ⟨fewer, enough, escaped⟩ := longRest_escaped
        (List.replicate quotes '"' ++ read) quote enough
      have readOn := inductionHypothesis 0 (c :: (List.replicate quotes '"' ++ read)) (by omega)
        enough
      rw [List.replicate_zero, List.nil_append] at readOn
      rw [taken, escaped, readOn]
      simp

/-- The run that a character ends or prolongs, and the longest one so far. -/
def runStep (wanted : Char) (state : Nat × Nat) (c : Char) : Nat × Nat :=
  if c = wanted then (state.1 + 1, max state.2 (state.1 + 1)) else (0, state.2)

theorem longestRun_eq (wanted : Char) (text : List Char) :
    longestRun wanted text = (text.foldl (runStep wanted) (0, 0)).2 := rfl

theorem le_foldl_runStep (wanted : Char) (text : List Char) (state : Nat × Nat) :
    state.2 ≤ (text.foldl (runStep wanted) state).2 := by
  induction text generalizing state with
  | nil => exact Nat.le_refl _
  | cons c text inductionHypothesis =>
    rw [List.foldl_cons]
    refine Nat.le_trans ?_ (inductionHypothesis _)
    rw [runStep]
    split
    · exact Nat.le_max_left ..
    · exact Nat.le_refl _

theorem succ_le_foldl_runStep (wanted : Char) (text : List Char) (state : Nat × Nat) :
    state.1 + 1 ≤ ((wanted :: text).foldl (runStep wanted) state).2 := by
  refine Nat.le_trans ?_ (le_foldl_runStep wanted text _)
  rw [runStep, if_pos rfl]
  exact Nat.le_max_right ..

theorem not_mem_of_longestRun {wanted : Char} {text : List Char} (noRun : longestRun wanted text = 0) :
    wanted ∉ text := by
  intro present
  obtain ⟨before, after, rfl⟩ := List.append_of_mem present
  rw [longestRun_eq, List.foldl_append] at noRun
  have counted := succ_le_foldl_runStep wanted after (before.foldl (runStep wanted) (0, 0))
  omega

/-- A text between long quotes without escapes, in which no run of quotes closes it. -/
theorem longRest_literal {chars rest : List Char} {longest bound : Nat} (quotes : Nat)
    (read : List Char) (short : (chars.foldl (runStep '\'') (quotes, longest)).2 < 3) (few : quotes < 3)
    (plain : ∀ c ∈ chars, isControl c = false) (other : rest.head? ≠ some '\'')
    (enough : (List.replicate quotes '\'' ++
      (chars ++ '\'' :: '\'' :: '\'' :: rest)).length < bound) :
    longRest '\'' false bound read (List.replicate quotes '\'' ++
        (chars ++ '\'' :: '\'' :: '\'' :: rest)) =
      some (String.ofList (read.reverse ++ (List.replicate quotes '\'' ++ chars)), rest) := by
  induction chars generalizing quotes longest bound read with
  | nil => rw [List.nil_append, longRest_close few other (by omega), List.append_nil]
  | cons c chars inductionHypothesis =>
    have plainRest : ∀ c ∈ chars, isControl c = false := fun other present =>
      plain other (List.mem_cons_of_mem c present)
    by_cases quote : c = '\''
    · subst quote
      have fewer := succ_le_foldl_runStep '\'' chars (quotes, longest)
      rw [List.foldl_cons, runStep, if_pos rfl] at short fewer
      have moved (rest : List Char) : List.replicate quotes '\'' ++ '\'' :: rest =
          List.replicate (quotes + 1) '\'' ++ rest := by
        rw [List.replicate_succ', List.append_assoc]
        rfl
      rw [List.cons_append, moved] at enough ⊢
      rw [inductionHypothesis (quotes + 1) read short (by omega) plainRest enough, moved]
    · rw [List.foldl_cons, runStep, if_neg quote] at short
      rw [List.cons_append] at enough ⊢
      obtain ⟨fewer, enough, taken⟩ := longRest_quotes false read few
        (by simp [quote]) enough
      have allowed : c = '\n' ∨ isPlain c = true ∧ c ≠ '\r' ∧ c ≠ '\n' := by
        by_cases breaks : c = '\n'
        · exact .inl breaks
        · have visible := plain c List.mem_cons_self
          refine .inr ⟨isPlain_of_not_isControl visible breaks, ?_, breaks⟩
          rintro rfl
          cases visible
      obtain ⟨fewer, enough, passed⟩ := longRest_plain false
        (List.replicate quotes '\'' ++ read) quote nofun allowed enough
      have readOn := inductionHypothesis 0 (c :: (List.replicate quotes '\'' ++ read)) short
        (by omega) plainRest enough
      rw [List.replicate_zero, List.nil_append] at readOn
      rw [taken, passed, readOn]
      simp

/-- Whether a text goes on with a quote. -/
def startsQuote : List Char → Bool
  | c :: _ => c == '"' || c == '\''
  | [] => false

theorem head_ne_of_startsQuote {rest : List Char} {quote : Char} (ends : startsQuote rest = false)
    (quotes : startsQuote [quote] = true) : rest.head? ≠ some quote := by
  intro starts
  cases rest with
  | nil => cases starts
  | cons c rest =>
    obtain rfl := Option.some.inj starts
    exact Bool.false_ne_true (ends.symm.trans quotes)

theorem text_of_one {input : List Char} (one : ∀ more, input ≠ '"' :: '"' :: more) :
    text ('"' :: input) = basicRest (input.length + 1) [] input := by
  unfold text
  split
  · rename_i rest same
    exact absurd (List.cons.inj same).2 (one rest)
  · rename_i same
    cases (List.cons.inj same).1
  · rename_i rest _ _ same
    rw [(List.cons.inj same).2]
  · rename_i same
    cases (List.cons.inj same).1
  · rename_i unmatched _
    exact absurd rfl (unmatched input)

theorem text_of_one_literal {input : List Char} (one : ∀ more, input ≠ '\'' :: '\'' :: more) :
    text ('\'' :: input) = literalRest input := by
  unfold text
  split
  · rename_i same
    cases (List.cons.inj same).1
  · rename_i rest same
    exact absurd (List.cons.inj same).2 (one rest)
  · rename_i same
    cases (List.cons.inj same).1
  · rename_i rest _ _ same
    rw [(List.cons.inj same).2]
  · rename_i unmatched
    exact absurd rfl (unmatched input)

theorem text_basic (chars : List Char) {rest : List Char} (ends : startsQuote rest = false) :
    text ('"' :: (chars.flatMap (escaped false) ++ '"' :: rest)) =
      some (String.ofList chars, rest) := by
  rw [text_of_one]
  · exact basicRest_flatMap [] (Nat.lt_succ_self _)
  · intro more same
    cases chars with
    | nil =>
      obtain rfl := (List.cons.inj same).2
      cases ends
    | cons c chars =>
      rw [List.flatMap_cons, List.append_assoc] at same
      have noQuote : false = true → c ≠ '"' := nofun
      apply head_escaped noQuote
      rw [same]
      rfl

theorem text_literal {chars : List Char} (present : chars ≠ [])
    (plain : ∀ c ∈ chars, isPlain c = true ∧ c ≠ '\'') (rest : List Char) :
    text ('\'' :: (chars ++ '\'' :: rest)) = some (String.ofList chars, rest) := by
  rw [text_of_one_literal]
  · exact literalRest_append plain rest
  · intro more same
    obtain ⟨c, others, rfl⟩ := List.exists_cons_of_ne_nil present
    exact (plain c List.mem_cons_self).2 (List.cons.inj same).1

/-- The line break in front of a text with several lines is passed over, and no other. -/
theorem skipLineBreak_append {several : Bool} {body : List Char}
    (sameLine : several = false → lineBreak? body = none) :
    skipLineBreak ((if several then ['\n'] else []) ++ body) = body := by
  cases several with
  | false => simp [skipLineBreak, sameLine rfl]
  | true => rfl

theorem text_longBasic {chars rest : List Char} {several : Bool} (sameLine : several = false → '\n' ∉ chars)
    (ends : startsQuote rest = false) :
    text ('"' :: '"' :: '"' :: ((if several then ['\n'] else []) ++
      (longEscaped 0 chars ++ '"' :: '"' :: '"' :: rest))) = some (String.ofList chars, rest) := by
  have other : rest.head? ≠ some '"' := head_ne_of_startsQuote ends rfl
  have noBreak : several = false →
      lineBreak? (longEscaped 0 chars ++ '"' :: '"' :: '"' :: rest) = none := by
    intro one
    cases chars with
    | nil => rfl
    | cons c chars =>
      rw [longEscaped]
      split
      · rfl
      · rw [List.append_assoc]
        exact lineBreak?_escaped (fun breaks => sameLine one (by simp [breaks])) _
  rw [text, skipLineBreak_append noBreak]
  refine longRest_longEscaped 0 [] (by omega) other ?_
  simp only [List.replicate_zero, List.nil_append, List.length_append]
  omega

theorem text_longLiteral {chars rest : List Char} {several : Bool}
    (sameLine : several = false → '\n' ∉ chars) (plain : ∀ c ∈ chars, isControl c = false)
    (short : longestRun '\'' chars < 3) (ends : startsQuote rest = false) :
    text ('\'' :: '\'' :: '\'' :: ((if several then ['\n'] else []) ++
      (chars ++ '\'' :: '\'' :: '\'' :: rest))) = some (String.ofList chars, rest) := by
  have other : rest.head? ≠ some '\'' := head_ne_of_startsQuote ends rfl
  have noBreak : several = false → lineBreak? (chars ++ '\'' :: '\'' :: '\'' :: rest) = none := by
    intro one
    cases chars with
    | nil => rfl
    | cons c chars =>
      refine lineBreak?_eq_none ?_ ?_
      · intro breaks
        obtain rfl : c = '\n' := by simpa using breaks
        exact sameLine one List.mem_cons_self
      · intro returns
        have visible := plain c List.mem_cons_self
        obtain rfl : c = '\r' := by simpa using returns
        cases visible
  rw [longestRun_eq] at short
  rw [text, skipLineBreak_append noBreak]
  refine longRest_literal 0 [] short (by omega) plain other ?_
  simp only [List.replicate_zero, List.nil_append, List.length_append]
  omega

theorem Quoting.literal_suits {needs : Needs} (chosen : Quoting.choose needs = .literal) :
    needs.control = false ∧ needs.singleQuotes = 0 ∧ needs.newline = false := by
  unfold Quoting.choose at chosen
  split at chosen
  · cases chosen
  · split at chosen
    · rename_i suits
      simpa [and_assoc] using suits
    · split at chosen
      · cases chosen
      · split at chosen
        · cases chosen
        · split at chosen <;> cases chosen

theorem Quoting.longLiteral_suits {needs : Needs} (chosen : Quoting.choose needs = .longLiteral) :
    needs.control = false ∧ needs.singleQuotes ≤ 2 := by
  unfold Quoting.choose at chosen
  split at chosen
  · cases chosen
  · split at chosen
    · cases chosen
    · split at chosen
      · cases chosen
      · split at chosen
        · rename_i suits
          simpa using suits
        · split at chosen <;> cases chosen

theorem quoted_eq_cons (chars : List Char) :
    ∃ quote behind, quoted chars = quote :: behind ∧ (quote = '"' ∨ quote = '\'') := by
  simp only [quoted]
  cases Quoting.choose (Needs.of chars) with
  | basic => exact ⟨_, _, rfl, .inl rfl⟩
  | literal => exact ⟨_, _, rfl, .inr rfl⟩
  | longBasic => exact ⟨_, _, rfl, .inl rfl⟩
  | longLiteral => exact ⟨_, _, rfl, .inr rfl⟩

theorem text_quoted (chars : List Char) {rest : List Char} (ends : startsQuote rest = false) :
    text (quoted chars ++ rest) = some (String.ofList chars, rest) := by
  have sameLine : (Needs.of chars).newline = false → '\n' ∉ chars := by simp [Needs.of]
  have visible : (Needs.of chars).control = false → ∀ c ∈ chars, isControl c = false := by
    simp [Needs.of]
  unfold quoted
  cases chosen : Quoting.choose (Needs.of chars) with
  | basic => simpa [chosen] using text_basic chars ends
  | literal =>
    obtain ⟨noControl, noQuote, oneLine⟩ := Quoting.literal_suits chosen
    have present : chars ≠ [] := by
      rintro rfl
      cases chosen
    have plain : ∀ c ∈ chars, isPlain c = true ∧ c ≠ '\'' := by
      intro c member
      refine ⟨isPlain_of_not_isControl (visible noControl c member) ?_, ?_⟩
      · rintro rfl
        exact sameLine oneLine member
      · rintro rfl
        exact not_mem_of_longestRun noQuote member
    simpa [chosen] using text_literal present plain rest
  | longBasic => simpa [chosen] using text_longBasic sameLine ends
  | longLiteral =>
    obtain ⟨noControl, short⟩ := Quoting.longLiteral_suits chosen
    simpa [chosen] using
      text_longLiteral sameLine (visible noControl) (Nat.lt_succ_of_le short) ends

end Dashboard.Toml
