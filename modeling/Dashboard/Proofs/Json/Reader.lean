import Dashboard.Json.Skip
import Mathlib.Data.List.DropRight

namespace Dashboard.Json

theorem exists_of_map_eq_ok {ε α β : Type} {outcome : Except ε α} {f : α → β} {result : β}
    (mapped : outcome.map f = .ok result) : ∃ value, outcome = .ok value ∧ f value = result := by
  cases outcome with
  | error fault => cases mapped
  | ok value => exact ⟨value, rfl, Except.ok.inj mapped⟩

theorem skipBlanks_skipBlanks (input : List Symbol) :
    skipBlanks (skipBlanks input) = skipBlanks input := List.dropWhile_idempotent ..

theorem skipBlanks_length (input : List Symbol) : (skipBlanks input).length ≤ input.length :=
  (List.dropWhile_sublist ..).length_le

theorem valueWith_opening {list object : Reader Value} {input rest : List Symbol} {symbol : Symbol}
    {bracket : Bracket} (begins : skipBlanks input = symbol :: rest)
    (opens : opening? symbol = some bracket) :
    valueWith list object input = match bracket with
      | .list => list rest
      | .object => object rest := by
  rw [opening?] at opens
  split at opens
  · rename_i same
    obtain rfl := Option.some.inj opens
    simp [valueWith, begins, same]
  · split at opens
    · rename_i same
      obtain rfl := Option.some.inj opens
      simp [valueWith, begins, same]
    · cases opens

/-- The next item of a list: there is none, or it is the first, or it is behind a comma. -/
theorem nextItem?_cases {isFirst : Bool} {input : List Symbol} {next : Option (List Symbol)}
    (found : nextItem? isFirst input = .ok next) :
    (next = none ∧ skipBlanks input = .char ']' :: closing input) ∨
      (∃ symbol rest, isFirst = true ∧ next = some (symbol :: rest) ∧
        skipBlanks input = symbol :: rest ∧ symbol ≠ .char ']') ∨
      ∃ rest, isFirst = false ∧ next = some (skipBlanks rest) ∧
        skipBlanks input = .char ',' :: rest := by
  rw [nextItem?] at found
  rw [closing]
  cases begins : skipBlanks input with
  | nil => simp [begins] at found
  | cons symbol rest =>
    simp only [begins] at found
    split at found
    · rename_i close
      cases found
      exact .inl ⟨rfl, by rw [close]; rfl⟩
    · rename_i other
      split at found
      · rename_i first
        cases found
        exact .inr (.inl ⟨symbol, rest, first, rfl, rfl, other⟩)
      · rename_i later
        split at found
        · rename_i comma
          subst comma
          refine .inr (.inr ⟨rest, by simpa using later, ?_, rfl⟩)
          split at found
          · cases found
          · rename_i symbol others behind
            split at found
            · cases found
            · cases found
              rw [behind]
        · cases found

/-- What follows the items that have been read: the closing bracket, or the next item. -/
theorem items_cases {item : Reader Value} {bound : Nat} {before all : List Value}
    {input rest : List Symbol} (read : items item (bound + 1) before input = .ok (all, rest)) :
    (all = before.reverse ∧ nextItem? before.isEmpty input = .ok none ∧
        skipBlanks input = .char ']' :: rest) ∨
      ∃ start content behind, nextItem? before.isEmpty input = .ok (some start) ∧
        item start = .ok (content, behind) ∧
        items item bound (content :: before) behind = .ok (all, rest) := by
  rw [items] at read
  split at read
  · cases read
  · rename_i ended
    cases read
    obtain ⟨-, ends⟩ | ⟨_, _, -, more, -⟩ | ⟨_, -, more, -⟩ := nextItem?_cases ended
    · exact .inl ⟨rfl, ended, ends⟩
    · cases more
    · cases more
  · rename_i start found
    split at read
    · cases read
    · rename_i content behind taken
      exact .inr ⟨start, content, behind, found, taken, read⟩

theorem keyText_eq_ok {input : List Symbol} {next : Option (String × List Symbol)}
    (read : keyText (.char '"' :: input) = .ok next) :
    ∃ key rest, next = some (key, rest) ∧ quotedText input = .ok (key, rest) := by
  obtain ⟨⟨key, rest⟩, quoted, rfl⟩ := exists_of_map_eq_ok read
  exact ⟨key, rest, rfl, quoted⟩

/-- The next key of an object: there is none, or it is the first, or it is behind a comma. -/
theorem nextKey?_cases {isFirst : Bool} {input : List Symbol}
    {next : Option (String × List Symbol)} (found : nextKey? isFirst input = .ok next) :
    (next = none ∧ skipBlanks input = .char '\x7d' :: closing input) ∨
      ∃ quoted key rest, next = some (key, rest) ∧ quotedText quoted = .ok (key, rest) ∧
        ((isFirst = true ∧ skipBlanks input = .char '"' :: quoted) ∨
          ∃ more, isFirst = false ∧ skipBlanks input = .char ',' :: more ∧
            skipBlanks more = .char '"' :: quoted) := by
  rw [nextKey?] at found
  rw [closing]
  cases begins : skipBlanks input with
  | nil => simp [begins] at found
  | cons symbol rest =>
    simp only [begins] at found
    split at found
    · rename_i close
      cases found
      exact .inl ⟨rfl, by rw [close]; rfl⟩
    · right
      split at found
      · rename_i first
        split at found
        · rename_i quote
          subst quote
          obtain ⟨key, behind, rfl, quoted⟩ := keyText_eq_ok found
          exact ⟨rest, key, behind, rfl, quoted, .inl ⟨first, rfl⟩⟩
        · cases found
      · rename_i later
        split at found
        · rename_i comma
          subst comma
          split at found
          · cases found
          · rename_i next others behind
            split at found
            · rename_i quote
              subst quote
              obtain ⟨key, last, rfl, quoted⟩ := keyText_eq_ok found
              exact ⟨others, key, last, rfl, quoted, .inr ⟨rest, by simpa using later, rfl, behind⟩⟩
            · split at found
              · cases found
              · cases found
        · cases found

/-- What follows the members that have been read: the closing brace, or the next member. -/
theorem members_cases {member : Reader Value} {bound : Nat} {before all : List (String × Value)}
    {input rest : List Symbol} (read : members member (bound + 1) before input = .ok (all, rest)) :
    (all = before.reverse ∧ nextKey? before.isEmpty input = .ok none ∧
        skipBlanks input = .char '\x7d' :: rest) ∨
      ∃ key behind start content others, nextKey? before.isEmpty input = .ok (some (key, behind)) ∧
        colon behind = .ok start ∧ member start = .ok (content, others) ∧
        members member bound ((key, content) :: before) others = .ok (all, rest) := by
  rw [members] at read
  split at read
  · cases read
  · rename_i ended
    cases read
    obtain ⟨-, ends⟩ | ⟨_, _, _, more, -⟩ := nextKey?_cases ended
    · exact .inl ⟨rfl, ended, ends⟩
    · cases more
  · rename_i key behind found
    split at read
    · cases read
    · rename_i start passed
      split at read
      · cases read
      · rename_i content others taken
        exact .inr ⟨key, behind, start, content, others, found, passed, taken, read⟩

theorem colon_length {input rest : List Symbol} (passed : colon input = .ok rest) :
    rest.length ≤ input.length := by
  have shorter := skipBlanks_length input
  rw [colon] at passed
  split at passed
  · cases passed
  · rename_i symbol others begins
    rw [begins] at shorter
    split at passed
    · cases passed
      exact Nat.le_of_succ_le shorter
    · cases passed

theorem length_le_of_skipBlanks {input rest : List Symbol} {symbol : Symbol}
    (begins : skipBlanks input = symbol :: rest) : rest.length ≤ input.length := by
  have shorter := skipBlanks_length input
  rw [begins] at shorter
  exact Nat.le_of_succ_le shorter

/-- What is read of a value, by its first character. -/
inductive ReadAs (list object : Reader Value) :
    Char → List Symbol → Value → List Symbol → Prop where
  | list {input rest : List Symbol} {content : Value} (read : list input = .ok (content, rest)) :
    ReadAs list object '[' input content rest
  | object {input rest : List Symbol} {content : Value} (read : object input = .ok (content, rest)) :
    ReadAs list object '\x7b' input content rest
  | text {input rest : List Symbol} {text : String} (read : quotedText input = .ok (text, rest)) :
    ReadAs list object '"' input (.string text) rest
  | number {c : Char} {input rest : List Symbol} {number : Number}
    (starts : (c = '-' || c.isDigit) = true)
    (read : numeral (.char c :: input) = .ok (number, rest)) :
    ReadAs list object c input (.number number) rest
  | null {input rest : List Symbol} (passed : word "ull".toList input = .ok rest) :
    ReadAs list object 'n' input .null rest
  | isTrue {input rest : List Symbol} (passed : word "rue".toList input = .ok rest) :
    ReadAs list object 't' input (.bool true) rest
  | isFalse {input rest : List Symbol} (passed : word "alse".toList input = .ok rest) :
    ReadAs list object 'f' input (.bool false) rest

theorem exists_readAs {list object : Reader Value} {input rest : List Symbol} {content : Value}
    (read : valueWith list object input = .ok (content, rest)) :
    ∃ c behind, skipBlanks input = .char c :: behind ∧ ReadAs list object c behind content rest := by
  rw [valueWith] at read
  cases begins : skipBlanks input with
  | nil => simp [begins] at read
  | cons symbol behind =>
    cases symbol with
    | stray byte => simp [begins] at read
    | char c =>
      refine ⟨c, behind, rfl, ?_⟩
      simp only [begins] at read
      split at read
      · rename_i opens
        exact opens ▸ .list read
      · split at read
        · rename_i opens
          exact opens ▸ .object read
        · split at read
          · rename_i quote
            obtain ⟨⟨text, other⟩, quoted, same⟩ := exists_of_map_eq_ok read
            obtain ⟨rfl, rfl⟩ := Prod.mk.inj same
            exact quote ▸ .text quoted
          · split at read
            · rename_i starts
              obtain ⟨⟨number, other⟩, numbered, same⟩ := exists_of_map_eq_ok read
              obtain ⟨rfl, rfl⟩ := Prod.mk.inj same
              exact .number starts numbered
            · split at read
              · rename_i starts
                obtain ⟨other, passed, same⟩ := exists_of_map_eq_ok read
                obtain ⟨rfl, rfl⟩ := Prod.mk.inj same
                exact starts ▸ .null passed
              · split at read
                · rename_i starts
                  obtain ⟨other, passed, same⟩ := exists_of_map_eq_ok read
                  obtain ⟨rfl, rfl⟩ := Prod.mk.inj same
                  exact starts ▸ .isTrue passed
                · split at read
                  · rename_i starts
                    obtain ⟨other, passed, same⟩ := exists_of_map_eq_ok read
                    obtain ⟨rfl, rfl⟩ := Prod.mk.inj same
                    exact starts ▸ .isFalse passed
                  · cases read

end Dashboard.Json
