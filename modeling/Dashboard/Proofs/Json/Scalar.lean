import Dashboard.Proofs.Json.Reader

namespace Dashboard.Json

theorem takeDigits_length (input : List Symbol) : (takeDigits input).2.length ≤ input.length := by
  induction input with
  | nil => simp [takeDigits]
  | cons symbol rest inductionHypothesis =>
    cases symbol with
    | stray byte => simp [takeDigits]
    | char c =>
      by_cases digit : c.isDigit = true
      · simp only [takeDigits, digit, if_true, List.length_cons]
        omega
      · simp [takeDigits, digit]

/-- The value of an exponent ends where its digits do, in the range or beyond it. -/
theorem exponentValue_rest (value : Nat) (input : List Symbol) :
    match exponentValue value input with
    | .ok (_, rest) => (takeDigits input).2 = rest
    | .error rest => (takeDigits input).2 = (takeDigits rest).2 := by
  induction input generalizing value with
  | nil => rfl
  | cons symbol rest inductionHypothesis =>
    cases symbol with
    | stray byte => rfl
    | char c =>
      by_cases digit : c.isDigit = true
      · have later := inductionHypothesis (10 * value + (c.toNat - 48))
        by_cases large : largestExponent < 10 * value + (c.toNat - 48)
        · simp [exponentValue, takeDigits, digit, large]
        · simpa [exponentValue, takeDigits, digit, large] using later
      · simp [exponentValue, takeDigits, digit]

theorem Digits.float_rest {digits : Digits} {input rest : List Symbol} {number : Number}
    (read : digits.float input = .ok (number, rest)) : input = rest := by
  rw [Digits.float] at read
  split at read
  · cases read
    rfl
  · cases read

theorem skipExponent_of_exponentPart (digits : Digits) {input rest : List Symbol} {number : Number}
    (read : exponentPart digits input = .ok (number, rest)) : skipExponent input = .ok rest := by
  rw [exponentPart] at read
  rw [skipExponent]
  generalize exponentSign input = sign at read ⊢
  obtain ⟨isNegative, unsigned⟩ := sign
  have ends := exponentValue_rest 0 unsigned
  dsimp only at read ⊢
  split at read
  · cases read
  · rename_i c more
    split at read
    · rename_i digit
      rw [startsWithDigit, if_pos digit]
      split at read
      · rename_i value behind valued
        rw [valued] at ends
        rw [ends, Digits.float_rest read]
      · rename_i behind valued
        rw [valued] at ends
        split at read
        · cases read
        · cases read
          rw [ends]
    · cases read
  · cases read

theorem skipFraction_of_fractionPart (digits : Digits) {input rest : List Symbol} {number : Number}
    (read : fractionPart digits input = .ok (number, rest)) : skipFraction input = .ok rest := by
  simp only [fractionPart] at read
  simp only [skipFraction]
  split at read
  · cases read
  · rename_i present
    rw [if_neg present]
    cases behind : (takeDigits input).2 with
    | nil =>
      simp only [behind] at read ⊢
      rw [Digits.float_rest read]
    | cons symbol more =>
      cases symbol with
      | stray byte =>
        simp only [behind] at read ⊢
        rw [Digits.float_rest read]
      | char c =>
        simp only [behind] at read ⊢
        split at read
        · rename_i mark
          rw [if_pos mark]
          exact skipExponent_of_exponentPart _ read
        · rename_i mark
          rw [if_neg mark, Digits.float_rest read]

theorem skipAfterWhole_of_afterWhole (isNegative : Bool) (whole : List Nat)
    {input rest : List Symbol} {number : Number}
    (read : afterWhole isNegative whole input = .ok (number, rest)) :
    skipAfterWhole input = .ok rest := by
  have plain : ∀ digits : Digits, (if (fit 0 whole).2 = whole.length then
        .ok (wholeNumber isNegative (fit 0 whole).1, input)
      else digits.float input) = .ok (number, rest) → input = rest := by
    intro digits ended
    split at ended
    · cases ended
      rfl
    · exact Digits.float_rest ended
  simp only [afterWhole] at read
  cases input with
  | nil => exact congrArg Except.ok (plain _ read)
  | cons symbol more =>
    cases symbol with
    | stray byte => exact congrArg Except.ok (plain _ read)
    | char c =>
      dsimp only [skipAfterWhole] at read ⊢
      by_cases point : c = '.'
      · rw [if_pos point] at read ⊢
        exact skipFraction_of_fractionPart _ read
      · rw [if_neg point] at read ⊢
        split at read
        · rename_i mark
          rw [if_pos mark]
          exact skipExponent_of_exponentPart _ read
        · rename_i mark
          rw [if_neg mark, plain _ read]

theorem skipMagnitude_of_magnitude (isNegative : Bool) {input rest : List Symbol} {number : Number}
    (read : magnitude isNegative input = .ok (number, rest)) : skipMagnitude input = .ok rest := by
  cases input with
  | nil => cases read
  | cons symbol more =>
    cases symbol with
    | stray byte => cases read
    | char c =>
      simp only [magnitude] at read
      simp only [skipMagnitude]
      by_cases zero : c = '0'
      · rw [if_pos zero] at read ⊢
        split at read
        · cases read
        · rename_i alone
          rw [if_neg alone]
          exact skipAfterWhole_of_afterWhole _ _ read
      · rw [if_neg zero] at read ⊢
        split at read
        · rename_i digit
          rw [if_pos digit]
          exact skipAfterWhole_of_afterWhole _ _ read
        · cases read

theorem skipExponent_length {input rest : List Symbol} (skipped : skipExponent input = .ok rest) :
    rest.length ≤ input.length := by
  have sign : (exponentSign input).2.length ≤ input.length := by
    rw [exponentSign.eq_def]
    split
    · exact Nat.le_succ _
    · exact Nat.le_succ _
    · exact Nat.le_refl _
  simp only [skipExponent] at skipped
  split at skipped
  · cases skipped
    exact Nat.le_trans (takeDigits_length _) sign
  · cases skipped

theorem skipFraction_length {input rest : List Symbol} (skipped : skipFraction input = .ok rest) :
    rest.length ≤ input.length := by
  have digits := takeDigits_length input
  simp only [skipFraction] at skipped
  split at skipped
  · cases skipped
  · split at skipped
    · rename_i c more behind
      rw [behind] at digits
      split at skipped
      · exact Nat.le_trans (skipExponent_length skipped) (Nat.le_of_succ_le digits)
      · cases skipped
        exact takeDigits_length input
    · cases skipped
      exact takeDigits_length input

theorem skipAfterWhole_length {input rest : List Symbol} (skipped : skipAfterWhole input = .ok rest) :
    rest.length ≤ input.length := by
  rw [skipAfterWhole.eq_def] at skipped
  split at skipped
  · split at skipped
    · exact Nat.le_succ_of_le (skipFraction_length skipped)
    · split at skipped
      · exact Nat.le_succ_of_le (skipExponent_length skipped)
      · cases skipped
        exact Nat.le_refl _
  · cases skipped
    exact Nat.le_refl _

theorem skipMagnitude_length {input rest : List Symbol} (skipped : skipMagnitude input = .ok rest) :
    rest.length < input.length := by
  rw [skipMagnitude.eq_def] at skipped
  split at skipped
  · rename_i c more
    split at skipped
    · split at skipped
      · cases skipped
      · exact Nat.lt_succ_of_le (skipAfterWhole_length skipped)
    · split at skipped
      · rename_i digit
        have shorter := skipAfterWhole_length skipped
        simp only [takeDigits, digit, if_true] at shorter
        exact Nat.lt_succ_of_le (Nat.le_trans shorter (takeDigits_length more))
      · cases skipped
  · cases skipped

theorem skipQuoted_escaped {input rest : List Symbol} (skipped : skipEscape input = .ok rest) :
    skipQuoted (.char '\\' :: input) = skipQuoted rest := by
  rw [skipQuoted]
  split
  · rename_i fault refused
    rw [skipped] at refused
    cases refused
  · rename_i other passed
    rw [skipped] at passed
    cases passed
    rfl

theorem skipEscape_code {input rest : List Symbol} {code : Nat}
    (digits : fourDigits input = .ok (code, rest)) :
    skipEscape (.char 'u' :: input) = .ok rest := by
  rw [skipEscape, if_pos rfl, digits]
  rfl

theorem skipQuoted_of_trailingHalf {lead : Nat} {input rest : List Symbol} {c : Char}
    (read : trailingHalf lead input = .ok (c, rest)) : skipQuoted input = skipQuoted rest := by
  rw [trailingHalf.eq_def] at read
  split at read
  · cases read
  · split at read
    · cases read
    · split at read
      · cases read
      · rename_i digits
        split at read
        · obtain ⟨-, rfl⟩ := Prod.mk.inj (Except.ok.inj read)
          exact skipQuoted_escaped (skipEscape_code digits)
        · cases read
    · cases read
  · cases read

/-- A pair of escapes for one character is passed over as two. -/
theorem skipQuoted_of_escape {input rest : List Symbol} {c : Char}
    (read : escape input = .ok (c, rest)) :
    skipQuoted (.char '\\' :: input) = skipQuoted rest := by
  cases input with
  | nil => cases read
  | cons symbol more =>
    cases symbol with
    | stray byte => cases read
    | char letter =>
      simp only [escape] at read
      split at read
      · rename_i code
        subst code
        rw [codeEscape] at read
        split at read
        · cases read
        · rename_i code middle digits
          rw [skipQuoted_escaped (skipEscape_code digits)]
          split at read
          · cases read
          · split at read
            · exact skipQuoted_of_trailingHalf read
            · cases read
              rfl
      · rename_i plain
        split at read
        · rename_i meant known
          cases read
          refine skipQuoted_escaped ?_
          rw [skipEscape, if_neg plain, known]
          rfl
        · cases read

theorem skipQuoted_of_quotedRest {read : List Char} {isClean : Bool} {input rest : List Symbol}
    {text : String} (success : quotedRest read isClean input = .ok (text, rest)) :
    skipQuoted input = .ok rest ∧ rest.length < input.length := by
  fun_induction quotedRest read isClean input with
  | case1 => cases success
  | case2 read behind =>
    cases success
    exact ⟨by rw [skipQuoted], Nat.lt_succ_self _⟩
  | case3 => cases success
  | case4 => cases success
  | case5 read isClean more c behind escaped inductionHypothesis =>
    obtain ⟨skipped, shorter⟩ := inductionHypothesis success
    have := escape_length escaped
    exact ⟨(skipQuoted_of_escape escaped).trans skipped, by rw [List.length_cons]; omega⟩
  | case6 => cases success
  | case7 read isClean c more noQuote noEscape printed inductionHypothesis =>
    obtain ⟨skipped, shorter⟩ := inductionHypothesis success
    refine ⟨?_, Nat.lt_succ_of_lt shorter⟩
    rw [skipQuoted.eq_4 _ _ noQuote noEscape, if_neg printed]
    exact skipped
  | case8 read isClean byte more inductionHypothesis =>
    obtain ⟨skipped, shorter⟩ := inductionHypothesis success
    exact ⟨by rw [skipQuoted, skipped], Nat.lt_succ_of_lt shorter⟩

theorem word_length {expected : List Char} {input rest : List Symbol}
    (passed : word expected input = .ok rest) : rest.length ≤ input.length := by
  induction expected generalizing input with
  | nil =>
    cases passed
    exact Nat.le_refl _
  | cons c more inductionHypothesis =>
    cases input with
    | nil => cases passed
    | cons symbol behind =>
      rw [word] at passed
      split at passed
      · exact Nat.le_succ_of_le (inductionHypothesis passed)
      · cases passed

theorem skipNumber_of_numeral {c : Char} {rest behind : List Symbol} {number : Number}
    (start : (c = '-' || c.isDigit) = true)
    (read : numeral (.char c :: rest) = .ok (number, behind)) :
    (if c = '-' then skipMagnitude rest
      else if c.isDigit then skipMagnitude (.char c :: rest)
      else if c = 'n' then word "ull".toList rest
      else if c = 't' then word "rue".toList rest
      else if c = 'f' then word "alse".toList rest
      else .error (.inside .expectedValue (.char c :: rest))) = .ok behind ∧
    behind.length ≤ rest.length := by
  by_cases sign : c = '-'
  · subst sign
    have skipped := skipMagnitude_of_magnitude true read
    exact ⟨skipped, Nat.le_of_lt (skipMagnitude_length skipped)⟩
  · have digit : c.isDigit = true := by simpa [sign] using start
    have plain : numeral (.char c :: rest) = magnitude false (.char c :: rest) := by
      rw [numeral.eq_def]
      split
      · rename_i same
        cases same
        exact absurd rfl sign
      · rfl
    have skipped := skipMagnitude_of_magnitude false (plain ▸ read)
    rw [if_neg sign, if_pos digit]
    exact ⟨skipped, Nat.le_of_lt_succ (skipMagnitude_length skipped)⟩

theorem skipScalar_of_valueWith {list object : Reader Value} {input rest behind : List Symbol}
    {symbol : Symbol} {value : Value} (begins : skipBlanks input = symbol :: rest)
    (scalar : opening? symbol = none)
    (read : valueWith list object input = .ok (value, behind)) :
    skipScalar (symbol :: rest) = .ok behind ∧ behind.length ≤ rest.length := by
  obtain ⟨c, inside, same, readAs⟩ := exists_readAs read
  obtain ⟨rfl, rfl⟩ := List.cons.inj (begins.symm.trans same)
  cases readAs with
  | list => cases scalar
  | object => cases scalar
  | text quoted =>
    obtain ⟨skipped, shorter⟩ := skipQuoted_of_quotedRest quoted
    exact ⟨skipped, Nat.le_of_lt shorter⟩
  | number starts numbered =>
    have noQuote : c ≠ '"' := by
      rintro rfl
      cases starts
    rw [skipScalar, if_neg noQuote]
    exact skipNumber_of_numeral starts numbered
  | null passed => exact ⟨passed, word_length passed⟩
  | isTrue passed => exact ⟨passed, word_length passed⟩
  | isFalse passed => exact ⟨passed, word_length passed⟩

end Dashboard.Json
