import Dashboard.Proofs.Json.Scalar

namespace Dashboard.Json

/-- Goes on where brackets have been closed, with so many steps left. -/
def goOn (bound : Nat) : Except Fault (List Bracket × List Symbol) → Except Fault (List Symbol)
  | .error fault => .error fault
  | .ok ([], rest) => .ok rest
  | .ok (bracket :: outer, rest) =>
    match skipToValue bracket rest with
    | .error fault => .error fault
    | .ok rest => skipWithin bound (bracket :: outer) rest

def goOnBehind (bound : Nat) (brackets : List Bracket) (input : List Symbol) :
    Except Fault (List Symbol) := goOn bound (closeBrackets true input brackets)

/-- What a reader takes off is passed over, in no more steps than it has symbols. -/
def PassedOver (reader : Reader Value) : Prop :=
  ∀ input value rest, reader input = .ok (value, rest) →
    ∃ steps, steps + 1 + rest.length ≤ input.length ∧ ∀ bound brackets,
      skipWithin (bound + steps + 1) brackets input = goOnBehind bound brackets rest

theorem skipWithin_skipBlanks (bound : Nat) (brackets : List Bracket) (input : List Symbol) :
    skipWithin (bound + 1) brackets (skipBlanks input) = skipWithin (bound + 1) brackets input := by
  rw [skipWithin, skipWithin, skipBlanks_skipBlanks]

theorem skipWithin_scalar {input rest behind : List Symbol} {symbol : Symbol}
    (begins : skipBlanks input = symbol :: rest) (scalar : opening? symbol = none)
    (skipped : skipScalar (symbol :: rest) = .ok behind) (bound : Nat) (brackets : List Bracket) :
    skipWithin (bound + 1) brackets input = goOnBehind bound brackets behind := by
  simp only [skipWithin, begins, scalar, skipped]
  rfl

theorem skipWithin_opening {input rest : List Symbol} {symbol : Symbol} {bracket : Bracket}
    (begins : skipBlanks input = symbol :: rest) (opens : opening? symbol = some bracket)
    (bound : Nat) (brackets : List Bracket) :
    skipWithin (bound + 1) brackets input =
      goOn bound (closeBrackets false rest (bracket :: brackets)) := by
  simp only [skipWithin, begins, opens]
  rfl

theorem closeBrackets_close (behindValue : Bool) {bracket : Bracket} {input rest : List Symbol}
    (closes : skipBlanks input = .char bracket.close :: rest) (outer : List Bracket) :
    closeBrackets behindValue input (bracket :: outer) = closeBrackets true rest outer := by
  have noComma : bracket.close ≠ ',' := by cases bracket <;> decide
  simp [closeBrackets, closes, noComma]

theorem closeBrackets_comma {input rest : List Symbol} (comma : skipBlanks input = .char ',' :: rest)
    (bracket : Bracket) (outer : List Bracket) :
    closeBrackets true input (bracket :: outer) = .ok (bracket :: outer, rest) := by
  simp [closeBrackets, comma]

theorem closeBrackets_first (bracket : Bracket) {input rest : List Symbol} {symbol : Symbol}
    (begins : skipBlanks input = symbol :: rest) (other : symbol ≠ .char bracket.close)
    (outer : List Bracket) :
    closeBrackets false input (bracket :: outer) = .ok (bracket :: outer, symbol :: rest) := by
  simp [closeBrackets, begins, other]

theorem nextItem?_length {isFirst : Bool} {input place : List Symbol}
    (found : nextItem? isFirst input = .ok (some place)) : place.length ≤ input.length := by
  have shorter := skipBlanks_length input
  obtain ⟨ended, -⟩ | ⟨symbol, rest, -, here, begins, -⟩ | ⟨rest, -, here, comma⟩ :=
    nextItem?_cases found
  · cases ended
  · obtain rfl := Option.some.inj here
    rwa [begins] at shorter
  · obtain rfl := Option.some.inj here
    have := skipBlanks_length rest
    rw [comma, List.length_cons] at shorter
    omega

theorem nextKey?_length {isFirst : Bool} {input rest : List Symbol} {key : String}
    (found : nextKey? isFirst input = .ok (some (key, rest))) : rest.length ≤ input.length := by
  have shorter := skipBlanks_length input
  obtain ⟨ended, -⟩ | ⟨quoted, _, _, here, text, place⟩ := nextKey?_cases found
  · cases ended
  · cases here
    obtain ⟨-, behind⟩ := skipQuoted_of_quotedRest text
    rcases place with ⟨-, quote⟩ | ⟨more, -, comma, quote⟩
    · rw [quote, List.length_cons] at shorter
      omega
    · have := skipBlanks_length more
      rw [comma, List.length_cons] at shorter
      rw [quote, List.length_cons] at this
      omega

theorem skipKey_of_quotedText {input quoted rest : List Symbol} {key : String}
    (quote : skipBlanks input = .char '"' :: quoted) (text : quotedText quoted = .ok (key, rest)) :
    skipKey input = colon rest := by
  obtain ⟨skipped, -⟩ := skipQuoted_of_quotedRest text
  simp [skipKey, quote, skipped]

/-- The items of a list, from the first one or from behind another. -/
theorem goOn_items {item : Reader Value} (passed : PassedOver item) {bound : Nat}
    {before values : List Value} {input rest : List Symbol}
    (read : items item bound before input = .ok (values, rest)) :
    ∃ steps, steps + rest.length ≤ input.length ∧ ∀ left brackets,
      goOn (left + steps) (closeBrackets (!before.isEmpty) input (.list :: brackets)) =
        goOnBehind left brackets rest := by
  induction bound generalizing before input with
  | zero => cases read
  | succ bound inductionHypothesis =>
    obtain ⟨-, -, ends⟩ | ⟨place, value, others, found, taken, read⟩ := items_cases read
    · refine ⟨0, ?_, fun left brackets => congrArg (goOn left) (closeBrackets_close _ ends brackets)⟩
      have := length_le_of_skipBlanks ends
      omega
    · obtain ⟨steps, enough, skips⟩ := passed _ _ _ taken
      obtain ⟨later, enoughLater, skipsLater⟩ := inductionHypothesis read
      have total (left : Nat) : left + (later + steps + 1) = left + later + steps + 1 := by omega
      refine ⟨later + steps + 1, ?_, fun left brackets => ?_⟩
      · have := nextItem?_length found
        omega
      · refine Eq.trans ?_ (skipsLater left brackets)
        refine Eq.trans ?_ (skips (left + later) (.list :: brackets))
        rw [total]
        obtain ⟨ended, -⟩ | ⟨symbol, _, first, here, begins, other⟩ | ⟨more, later, here, comma⟩ :=
          nextItem?_cases found
        · cases ended
        · obtain rfl := Option.some.inj here
          rw [first, Bool.not_true, closeBrackets_first .list begins other]
          rfl
        · obtain rfl := Option.some.inj here
          rw [later, Bool.not_false, closeBrackets_comma comma, skipWithin_skipBlanks]
          rfl

/-- The members of an object, from the first one or from behind another. -/
theorem goOn_members {member : Reader Value} (passed : PassedOver member) {bound : Nat}
    {before entries : List (String × Value)} {input rest : List Symbol}
    (read : members member bound before input = .ok (entries, rest)) :
    ∃ steps, steps + rest.length ≤ input.length ∧ ∀ left brackets,
      goOn (left + steps) (closeBrackets (!before.isEmpty) input (.object :: brackets)) =
        goOnBehind left brackets rest := by
  induction bound generalizing before input with
  | zero => cases read
  | succ bound inductionHypothesis =>
    obtain ⟨-, -, ends⟩ | ⟨key, behind, start, value, others, found, passedColon, taken, read⟩ :=
      members_cases read
    · refine ⟨0, ?_, fun left brackets => congrArg (goOn left) (closeBrackets_close _ ends brackets)⟩
      have := length_le_of_skipBlanks ends
      omega
    · obtain ⟨steps, enough, skips⟩ := passed _ _ _ taken
      obtain ⟨later, enoughLater, skipsLater⟩ := inductionHypothesis read
      have total (left : Nat) : left + (later + steps + 1) = left + later + steps + 1 := by omega
      refine ⟨later + steps + 1, ?_, fun left brackets => ?_⟩
      · have := nextKey?_length found
        have := colon_length passedColon
        omega
      · refine Eq.trans ?_ (skipsLater left brackets)
        refine Eq.trans ?_ (skips (left + later) (.object :: brackets))
        rw [total]
        obtain ⟨ended, -⟩ | ⟨quoted, _, _, here, text, place⟩ := nextKey?_cases found
        · cases ended
        · cases here
          rcases place with ⟨first, quote⟩ | ⟨more, later, comma, quote⟩
          · have named := skipKey_of_quotedText ((congrArg skipBlanks quote.symm).trans
              ((skipBlanks_skipBlanks input).trans quote)) text
            rw [first, Bool.not_true, closeBrackets_first .object quote (by decide)]
            simp only [goOn, skipToValue, named, passedColon]
          · have named := skipKey_of_quotedText quote text
            rw [later, Bool.not_false, closeBrackets_comma comma]
            simp only [goOn, skipToValue, named, passedColon]

/-- What a reader takes off behind an opening bracket is passed over up to the closing one. -/
def PassedInside (bracket : Bracket) (reader : Reader Value) : Prop :=
  ∀ input value rest, reader input = .ok (value, rest) →
    ∃ steps, steps + rest.length ≤ input.length ∧ ∀ left brackets,
      goOn (left + steps) (closeBrackets false input (bracket :: brackets)) =
        goOnBehind left brackets rest

theorem passedOver_valueWith {list object : Reader Value} (lists : PassedInside .list list)
    (objects : PassedInside .object object) : PassedOver (valueWith list object) := by
  intro input value rest read
  have shorter := skipBlanks_length input
  cases begins : skipBlanks input with
  | nil =>
    rw [valueWith, begins] at read
    cases read
  | cons symbol more =>
    rw [begins, List.length_cons] at shorter
    cases opens : opening? symbol with
    | none =>
      obtain ⟨skipped, behind⟩ := skipScalar_of_valueWith begins opens read
      exact ⟨0, by omega, fun bound brackets => skipWithin_scalar begins opens skipped bound brackets⟩
    | some bracket =>
      rw [valueWith_opening begins opens] at read
      obtain ⟨steps, enough, skips⟩ : ∃ steps, steps + rest.length ≤ more.length ∧
          ∀ left brackets, goOn (left + steps) (closeBrackets false more (bracket :: brackets)) =
            goOnBehind left brackets rest := by
        cases bracket with
        | list => exact lists _ _ _ read
        | object => exact objects _ _ _ read
      exact ⟨steps, by omega, fun bound brackets =>
        (skipWithin_opening begins opens _ brackets).trans (skips bound brackets)⟩

/-- What the reader of values takes off, at any depth, is passed over. -/
theorem passedOver_value (depth : Nat) : PassedOver (value depth) := by
  induction depth with
  | zero => exact passedOver_valueWith (fun _ _ _ => nofun) fun _ _ _ => nofun
  | succ depth inductionHypothesis =>
    refine passedOver_valueWith (fun input value rest read => ?_) fun input value rest read => ?_
    · obtain ⟨⟨values, behind⟩, taken, same⟩ := exists_of_map_eq_ok read
      obtain ⟨-, rfl⟩ := Prod.mk.inj same
      exact goOn_items inductionHypothesis taken
    · obtain ⟨⟨entries, behind⟩, taken, same⟩ := exists_of_map_eq_ok read
      obtain ⟨-, rfl⟩ := Prod.mk.inj same
      exact goOn_members inductionHypothesis taken

/-- A value that is read is passed over, to the same place. -/
theorem skipValue_of_value {depth : Nat} {input rest : List Symbol} {read : Value}
    (taken : value depth input = .ok (read, rest)) : skipValue input = .ok rest := by
  obtain ⟨steps, enough, skips⟩ := passedOver_value depth _ _ _ taken
  have total : input.length + 1 = input.length - steps + steps + 1 := by omega
  rw [skipValue, total, skips]
  rfl

end Dashboard.Json
