import Dashboard.Proofs.Decimal.Special
import Dashboard.Proofs.Json.Numeral
import Dashboard.Proofs.Toml.Quoted

namespace Dashboard.Toml

def endings : List Char := ['\n', '\r', ' ', '\t', '#', ',', ']', '\x7d']

/-- A text that is at its end or goes on with one of some characters. -/
def GoesOnWith (allowed rest : List Char) : Prop := ∀ c, rest.head? = some c → c ∈ allowed

theorem goesOnWith_cons {allowed : List Char} {c : Char} (member : c ∈ allowed) (rest : List Char) :
    GoesOnWith allowed (c :: rest) := by
  intro other same
  obtain rfl := Option.some.inj same
  exact member

theorem GoesOnWith.mono {allowed more rest : List Char} (ends : GoesOnWith allowed rest)
    (wider : ∀ c ∈ allowed, c ∈ more) : GoesOnWith more rest :=
  fun c same => wider c (ends c same)

theorem not_startsQuote {rest : List Char} (ends : GoesOnWith endings rest) :
    startsQuote rest = false := by
  have noQuote : ∀ c ∈ endings, startsQuote [c] = false := by simp [endings, startsQuote]
  cases rest with
  | nil => rfl
  | cons c rest => exact noQuote c (ends c rfl)

/-- The digits in front of a point: a zero stands there only alone. -/
structure IsWholePart (digits : List Char) : Prop where
  all : ∀ c ∈ digits, c.isDigit = true
  present : digits ≠ []
  zero : digits.head? = some '0' → digits = ['0']

abbrev EndsDigits (rest : List Char) : Prop := GoesOnWith ('.' :: endings) rest

theorem EndsDigits.facts : ∀ c ∈ '.' :: endings, c.isDigit = false ∧ c ≠ '_' ∧ c ≠ '-' ∧ c ≠ ':' ∧
    c ≠ 'x' ∧ c ≠ 'o' ∧ c ≠ 'b' := by simp [endings]

theorem more_append {digits rest : List Char} (all : ∀ c ∈ digits, c.isDigit = true)
    (ends : EndsDigits rest) : digitRun.more Char.isDigit (digits ++ rest) = some (digits, rest) := by
  induction digits with
  | nil =>
    cases rest with
    | nil => rfl
    | cons c rest =>
      obtain ⟨noDigit, noLine, -⟩ := EndsDigits.facts c (ends c rfl)
      cases rest <;> simp [digitRun.more, noDigit, noLine]
  | cons c digits inductionHypothesis =>
    have digit := all c List.mem_cons_self
    have readOn := inductionHypothesis fun other member => all other (List.mem_cons_of_mem c member)
    cases behind : digits ++ rest with
    | nil =>
      rw [behind] at readOn
      simp only [digitRun.more, Option.some.injEq, Prod.mk.injEq] at readOn
      simp [digitRun.more, digit, ← readOn.1, ← readOn.2]
    | cons next others =>
      rw [behind] at readOn
      simp [digitRun.more, behind, digit, readOn]

theorem digitRun_append {digits rest : List Char} (all : ∀ c ∈ digits, c.isDigit = true)
    (present : digits ≠ []) (ends : EndsDigits rest) :
    digitRun Char.isDigit (digits ++ rest) = some (digits, rest) := by
  obtain ⟨c, digits, rfl⟩ := List.exists_cons_of_ne_nil present
  have behind := more_append (fun other member => all other (List.mem_cons_of_mem c member)) ends
  simp [digitRun, all c List.mem_cons_self, behind]

theorem wholeDigits_append {digits rest : List Char} (whole : IsWholePart digits)
    (ends : EndsDigits rest) : wholeDigits (digits ++ rest) = some (digits, rest) := by
  by_cases zero : digits.head? = some '0'
  · rw [whole.zero zero]
    rfl
  · have read := digitRun_append whole.all whole.present ends
    unfold wholeDigits
    split
    · rename_i others same
      obtain ⟨c, digits, rfl⟩ := List.exists_cons_of_ne_nil whole.present
      obtain rfl := (List.cons.inj same).1
      exact absurd rfl zero
    · exact read

/-- Behind digits in front of the end of a number stands another digit, or that end. -/
theorem mark_behind_digits {digits rest : List Char} {count : Nat} {c : Char} (ends : EndsDigits rest)
    (all : ∀ c ∈ digits, c.isDigit = true) (long : ((digits ++ rest).take count).length = count)
    (taken : ((digits ++ rest).take count).all Char.isDigit = true)
    (mark : (digits ++ rest)[count]? = some c) : c.isDigit = true ∨ c ∈ '.' :: endings := by
  induction digits generalizing count with
  | nil =>
    cases rest with
    | nil => simp at mark
    | cons first rest =>
      cases count with
      | zero =>
        obtain rfl : first = c := by simpa using mark
        exact .inr (ends first rfl)
      | succ count =>
        have noDigit := (EndsDigits.facts first (ends first rfl)).1
        simp [noDigit] at taken
  | cons first digits inductionHypothesis =>
    cases count with
    | zero =>
      obtain rfl : first = c := by simpa using mark
      exact .inl (all first List.mem_cons_self)
    | succ count =>
      have others : ∀ c ∈ digits, c.isDigit = true := fun other member =>
        all other (List.mem_cons_of_mem first member)
      have behindTaken : ((digits ++ rest).take count).all Char.isDigit = true := by
        simp at taken
        simpa using taken.2
      exact inductionHypothesis others (by simpa using long) behindTaken (by simpa using mark)

/-- Digits in front of the end of a number start neither a date nor a time. -/
theorem not_startsDate {digits rest : List Char} (all : ∀ c ∈ digits, c.isDigit = true)
    (ends : EndsDigits rest) : startsDate (digits ++ rest) = false := by
  apply Bool.eq_false_iff.mpr
  intro starts
  simp only [startsDate, Bool.and_eq_true, beq_iff_eq] at starts
  obtain ⟨⟨long, taken⟩, mark⟩ := starts
  rcases mark_behind_digits ends all long taken mark with digit | ending
  · cases digit
  · exact absurd rfl (EndsDigits.facts '-' ending).2.2.1

theorem not_startsTime {digits rest : List Char} (all : ∀ c ∈ digits, c.isDigit = true)
    (ends : EndsDigits rest) : startsTime (digits ++ rest) = false := by
  apply Bool.eq_false_iff.mpr
  intro starts
  simp only [startsTime, Bool.and_eq_true, beq_iff_eq] at starts
  obtain ⟨⟨long, taken⟩, mark⟩ := starts
  rcases mark_behind_digits ends all long taken mark with digit | ending
  · cases digit
  · exact absurd rfl (EndsDigits.facts ':' ending).2.2.2.1

theorem digit_facts {c : Char} (digit : c.isDigit = true) :
    c ≠ '"' ∧ c ≠ '\'' ∧ c ≠ 't' ∧ c ≠ 'f' ∧ c ≠ 'i' ∧ c ≠ 'n' ∧ c ≠ '+' ∧ c ≠ '-' := by
  refine ⟨?_, ?_, ?_, ?_, ?_, ?_, ?_, ?_⟩ <;>
  · rintro rfl
    cases digit

/-- Behind a leading zero a number is at its end. -/
theorem behind_zero {digits rest more : List Char} {mark : Char} (whole : IsWholePart digits)
    (ends : EndsDigits rest) (same : digits ++ rest = '0' :: mark :: more) :
    mark ∈ '.' :: endings := by
  obtain ⟨c, others, rfl⟩ := List.exists_cons_of_ne_nil whole.present
  obtain ⟨rfl, behind⟩ := List.cons.inj same
  obtain rfl : others = [] := (List.cons.inj (whole.zero rfl)).2
  have next : rest = mark :: more := behind
  exact ends mark (by rw [next]; rfl)

theorem scalar_digits {digits rest : List Char} (whole : IsWholePart digits)
    (ends : EndsDigits rest) : scalar (digits ++ rest) = decimalNumber (digits ++ rest) := by
  have noDate := not_startsDate whole.all ends
  have noTime := not_startsTime whole.all ends
  obtain ⟨c, others, rfl⟩ := List.exists_cons_of_ne_nil whole.present
  have digit := whole.all c List.mem_cons_self
  obtain ⟨noQuote, noLiteral, noTrue, noFalse, noInf, noNan, noPlus, noMinus⟩ := digit_facts digit
  rw [List.cons_append] at noDate noTime ⊢
  simp only [scalar, noQuote, noLiteral, noTrue, noFalse, noInf, noNan, noPlus, noMinus, digit,
    noDate, noTime, decide_false, Bool.or_self, Bool.false_eq_true, if_false, if_true]
  split
  · rename_i same
    exact absurd rfl (EndsDigits.facts 'x' (behind_zero whole ends same)).2.2.2.2.1
  · rename_i same
    exact absurd rfl (EndsDigits.facts 'o' (behind_zero whole ends same)).2.2.2.2.2.1
  · rename_i same
    exact absurd rfl (EndsDigits.facts 'b' (behind_zero whole ends same)).2.2.2.2.2.2
  · rfl

theorem sign_digits {digits : List Char} (whole : IsWholePart digits) (isNegative : Bool)
    (rest : List Char) : sign ((if isNegative then ['-'] else []) ++ (digits ++ rest)) =
      ((if isNegative then ['-'] else []), digits ++ rest) := by
  cases isNegative with
  | true => rfl
  | false =>
    obtain ⟨c, others, rfl⟩ := List.exists_cons_of_ne_nil whole.present
    obtain ⟨-, -, -, -, -, -, noPlus, noMinus⟩ := digit_facts (whole.all c List.mem_cons_self)
    simp only [Bool.false_eq_true, if_false, List.nil_append, List.cons_append]
    unfold sign
    split
    · rename_i same
      exact absurd (List.cons.inj same).1 noPlus
    · rename_i same
      exact absurd (List.cons.inj same).1 noMinus
    · rfl

theorem scalar_signed {digits rest : List Char} (whole : IsWholePart digits) (ends : EndsDigits rest)
    (isNegative : Bool) : scalar ((if isNegative then ['-'] else []) ++ (digits ++ rest)) =
      decimalNumber ((if isNegative then ['-'] else []) ++ (digits ++ rest)) := by
  cases isNegative with
  | true => rfl
  | false =>
    rw [if_neg Bool.false_ne_true, List.nil_append]
    exact scalar_digits whole ends

theorem namedFloat_digits {digits : List Char} (whole : IsWholePart digits) (isNegative : Bool)
    (rest : List Char) : namedFloat isNegative (digits ++ rest) = none := by
  obtain ⟨c, others, rfl⟩ := List.exists_cons_of_ne_nil whole.present
  obtain ⟨-, -, -, -, noInf, noNan, -, -⟩ := digit_facts (whole.all c List.mem_cons_self)
  simp [namedFloat, take?, noInf, noNan]

theorem endings_facts : ∀ c ∈ endings, c ≠ '.' ∧ c ≠ 'e' ∧ c ≠ 'E' := by simp [endings]

/-- A number without a point, and without anything else that would make it a float. -/
theorem decimalNumber_whole {digits rest : List Char} (whole : IsWholePart digits)
    (ends : GoesOnWith endings rest) (isNegative : Bool) :
    decimalNumber ((if isNegative then ['-'] else []) ++ (digits ++ rest)) =
      (integer? (if isNegative then -(Decimal.digitsValue 0 digits : Int)
        else Decimal.digitsValue 0 digits)).map fun value => (value, rest) := by
  have tail : numberTail rest = some (.none, rest) := by
    cases rest with
    | nil => rfl
    | cons c rest =>
      obtain ⟨noPoint, noMark, noOther⟩ := endings_facts c (ends c rfl)
      simp [numberTail, noPoint, noMark, noOther]
  have read := wholeDigits_append whole (ends.mono fun c member => List.mem_cons_of_mem '.' member)
  simp only [decimalNumber, sign_digits whole, namedFloat_digits whole, read, tail,
    Option.bind_eq_bind, Option.bind_some]
  rw [Option.map_eq_bind]
  cases isNegative <;> rfl

/-- A number with a point and digits on both sides of it. -/
theorem decimalNumber_point {digits fraction rest : List Char} (whole : IsWholePart digits)
    (all : ∀ c ∈ fraction, c.isDigit = true) (present : fraction ≠ [])
    (ends : GoesOnWith endings rest) (isNegative : Bool) :
    decimalNumber ((if isNegative then ['-'] else []) ++ (digits ++ ('.' :: fraction ++ rest))) =
      (float? ((if isNegative then ['-'] else []) ++ digits ++ '.' :: fraction)).map fun value =>
        (value, rest) := by
  have behind := digitRun_append all present
    (ends.mono fun c member => List.mem_cons_of_mem '.' member)
  have tail : numberTail ('.' :: fraction ++ rest) = some (.float ('.' :: fraction), rest) := by
    rw [List.cons_append]
    cases rest with
    | nil =>
      rw [List.append_nil] at behind ⊢
      simp [numberTail, behind]
    | cons c rest =>
      obtain ⟨-, noMark, noOther⟩ := endings_facts c (ends c rfl)
      simp [numberTail, behind, noMark, noOther]
  have read := wholeDigits_append whole (goesOnWith_cons (c := '.') List.mem_cons_self (fraction ++ rest))
  simp only [decimalNumber, sign_digits whole, namedFloat_digits whole, List.cons_append] at read tail ⊢
  simp only [read, tail, Option.bind_eq_bind, Option.bind_some]
  rw [Option.map_eq_bind]
  rfl

theorem digitsValue_eq (digits : List Char) (start : Nat) :
    Decimal.digitsValue start digits = Nat.ofDigitChars 10 digits start := by
  induction digits generalizing start with
  | nil => rfl
  | cons c digits inductionHypothesis =>
    rw [Nat.ofDigitChars_cons, ← inductionHypothesis]
    rfl

theorem isWholePart_toDigits (number : Nat) : IsWholePart (Nat.toDigits 10 number) where
  all _ := Json.toDigits_isDigit
  present := Nat.toDigits_ne_nil
  zero starts := by rw [Json.eq_zero_of_head_toDigits number starts]; rfl

theorem toString_eq (value : Int) : (toString value).toList =
    (if decide (value < 0) then ['-'] else []) ++ Nat.toDigits 10 value.natAbs := by
  have written : (toString value).toList = _ := Json.text_integer value
  rw [written]
  by_cases negative : value < 0
  · simp [negative]
  · simp [negative, Int.not_lt.mp negative]

theorem scalar_integer {value : Int} {rest : List Char} (writable : isWritable value = true)
    (ends : GoesOnWith endings rest) :
    scalar ((toString value).toList ++ rest) = some (.integer value, rest) := by
  have whole := isWholePart_toDigits value.natAbs
  have read := decimalNumber_whole whole ends (decide (value < 0))
  have size : (if decide (value < 0) then -(Decimal.digitsValue 0 (Nat.toDigits 10 value.natAbs) : Int)
      else Decimal.digitsValue 0 (Nat.toDigits 10 value.natAbs)) = value := by
    rw [digitsValue_eq, Nat.ofDigitChars_ten_toDigits]
    by_cases negative : value < 0
    · simp only [negative, decide_true, if_true]
      omega
    · simp only [negative, decide_false, Bool.false_eq_true, if_false]
      omega
  have fits : integer? value = some (.integer value) := by
    simp only [isWritable, Bool.and_eq_true, decide_eq_true_eq] at writable
    rw [integer?, if_pos]
    omega
  rw [size, fits] at read
  rw [toString_eq, List.append_assoc, scalar_signed whole
    (ends.mono fun c member => List.mem_cons_of_mem '.' member)]
  exact read

theorem scalar_quoted (text : List Char) {rest : List Char} (ends : GoesOnWith endings rest) :
    scalar (quoted text ++ rest) = some (.string (String.ofList text), rest) := by
  have read := text_quoted text (not_startsQuote ends)
  obtain ⟨quote, behind, shape, quotes⟩ := quoted_eq_cons text
  rw [shape, List.cons_append] at read ⊢
  simp [scalar, quotes, read]

theorem scalar_boolean (value : Bool) (rest : List Char) :
    scalar (booleanText value ++ rest) = some (.boolean value, rest) := by
  cases value <;> simp [scalar, booleanText, take?]

end Dashboard.Toml
