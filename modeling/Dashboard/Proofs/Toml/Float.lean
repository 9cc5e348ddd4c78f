import Dashboard.Proofs.Toml.Scalar

namespace Dashboard.Toml

open Decimal (Style Binary64 Magnitude)

theorem isDigit_of_mem_zeros {count : Nat} {c : Char} (member : c ∈ List.replicate count '0') :
    c.isDigit = true := by
  rw [List.eq_of_mem_replicate member]
  rfl

/-- Digits with none of them behind a leading zero are laid out that way. -/
theorem isWholePart_positionalParts {digits : List Char} (whole : IsWholePart digits)
    (notZero : digits ≠ ['0']) (exponent : Int) :
    IsWholePart (Style.positionalParts digits exponent).1 ∧
      ∀ c ∈ (Style.positionalParts digits exponent).2, c.isDigit = true := by
  have noZero : digits.head? ≠ some '0' := fun zero => notZero (whole.zero zero)
  obtain ⟨first, others, rfl⟩ := List.exists_cons_of_ne_nil whole.present
  simp only [Style.positionalParts]
  split
  · refine ⟨⟨?_, by simp, ?_⟩, nofun⟩
    · intro c member
      rcases List.mem_append.mp member with digit | zero
      · exact whole.all c digit
      · exact isDigit_of_mem_zeros zero
    · intro zero
      exact absurd zero noZero
  · split
    · rename_i inside
      refine ⟨⟨?_, ?_, ?_⟩, ?_⟩
      · intro c member
        exact whole.all c (List.mem_of_mem_take member)
      · intro noWhole
        have short := congrArg List.length noWhole
        simp only [List.length_take, List.length_nil] at short
        omega
      · intro zero
        rw [List.head?_take, if_neg (by omega)] at zero
        exact absurd zero noZero
      · intro c member
        exact whole.all c (List.mem_of_mem_drop member)
    · refine ⟨⟨?_, by simp, fun _ => rfl⟩, ?_⟩
      · simp
      · intro c member
        rcases List.mem_append.mp member with zero | digit
        · exact isDigit_of_mem_zeros zero
        · exact whole.all c digit

/-- How the text of a finite float looks behind its sign. -/
def IsPointed (text : List Char) : Prop :=
  ∃ whole fraction, text = whole ++ '.' :: fraction ∧ IsWholePart whole ∧ fraction ≠ [] ∧
    ∀ c ∈ fraction, c.isDigit = true

theorem isPointed_positionalText {digits : List Char} (whole : IsWholePart digits)
    (notZero : digits ≠ ['0']) (exponent : Int) :
    IsPointed (Style.setting.positionalText digits exponent).toList := by
  obtain ⟨before, after⟩ := isWholePart_positionalParts whole notZero exponent
  by_cases noFraction : (Style.positionalParts digits exponent).2 = []
  · refine ⟨(Style.positionalParts digits exponent).1, ['0'], ?_, before, by simp, by simp⟩
    simp [Style.positionalText, Style.setting, noFraction]
  · refine ⟨_, _, ?_, before, noFraction, after⟩
    simp [Style.positionalText, noFraction]

theorem toList_text {number : Float} {isNegative : Bool} {magnitude : Magnitude}
    (finite : Binary64.ofFloat number = .finite isNegative magnitude) :
    (Style.setting.text number).toList = (if isNegative then ['-'] else []) ++
      if magnitude.mantissa = 0 then "0.0".toList
      else (Style.setting.positionalText (Nat.toDigits 10 (magnitude.shortest .up).coefficient)
        (magnitude.shortest .up).exponent).toList := by
  rw [Style.text, finite]
  simp only [String.toList_append]
  congr 1
  · cases isNegative <;> rfl
  · split <;> rfl

theorem digitsValue_zeros {digits : List Char} (zeros : ∀ c ∈ digits, c = '0') :
    Decimal.digitsValue 0 digits = 0 := by
  have same : digits = List.replicate digits.length '0' :=
    List.eq_replicate_iff.mpr ⟨rfl, zeros⟩
  rw [digitsValue_eq, same, Nat.ofDigitChars_replicate_zero, Nat.mul_zero]

theorem unsignedNumber_zeros {whole fraction : List Char} (present : whole ≠ [])
    (zeros : ∀ c ∈ whole ++ fraction, c = '0') :
    Decimal.unsignedNumber (whole ++ '.' :: fraction) = some 0.0 := by
  have digit : ∀ c ∈ whole ++ fraction, c.isDigit = true := by
    intro c member
    rw [zeros c member]
    rfl
  have wholeDigits : ∀ c ∈ whole, c.isDigit = true := fun c member =>
    digit c (List.mem_append_left _ member)
  have fractionDigits : ∀ c ∈ fraction, c.isDigit = true := fun c member =>
    digit c (List.mem_append_right _ member)
  have point : ∀ c, ('.' :: fraction).head? = some c → c.isDigit = false := by simp
  have front := takeWhile_front wholeDigits point
  have behind := dropWhile_front wholeDigits point
  have taken : (fraction ++ []).takeWhile Char.isDigit = fraction :=
    takeWhile_front fractionDigits nofun
  have nothingLeft : (fraction ++ []).dropWhile Char.isDigit = [] :=
    dropWhile_front fractionDigits nofun
  rw [List.append_nil] at taken nothingLeft
  simp only [Decimal.unsignedNumber, front, behind, taken, nothingLeft, digitsValue_zeros zeros]
  simp [present, Decimal.exponentPart, Decimal.nearestFloat]

theorem float?_zeros {whole fraction : List Char} (present : whole ≠ [])
    (zeros : ∀ c ∈ whole ++ fraction, c = '0') (isNegative : Bool) :
    Decimal.float? (String.ofList ((if isNegative then ['-'] else []) ++
      (whole ++ '.' :: fraction))) = some (if isNegative then -0.0 else 0.0) := by
  obtain ⟨c, others, rfl⟩ := List.exists_cons_of_ne_nil present
  obtain rfl : c = '0' := zeros c (by simp)
  have signed : Decimal.takeSign ((if isNegative then ['-'] else []) ++
      ('0' :: others ++ '.' :: fraction)) = (isNegative, '0' :: others ++ '.' :: fraction) := by
    cases isNegative <;> rfl
  have noWord (word : String) (other : word.toList.head? ≠ some '0') :
      String.ofList (('0' :: others ++ '.' :: fraction).map Char.toLower) ≠ word := by
    intro same
    apply other
    rw [← same, String.toList_ofList]
    rfl
  rw [Decimal.float?, String.toList_ofList, signed]
  refine congrArg (Option.map fun value : Float => if isNegative then -value else value)
    (?_ : _ = some 0.0)
  split
  · rename_i same
    exact absurd same (noWord "nan" (by decide))
  · rename_i same
    exact absurd same (noWord "inf" (by decide))
  · rename_i same
    exact absurd same (noWord "infinity" (by decide))
  · exact unsignedNumber_zeros present zeros

theorem mantissa_zero (isNegative : Bool) :
    ∃ sign magnitude, Binary64.ofFloat (if isNegative then -0.0 else 0.0) = .finite sign magnitude ∧
      magnitude.mantissa = 0 := by
  cases isNegative with
  | false => exact ⟨false, ⟨0, -1074, false⟩, by decide +kernel, rfl⟩
  | true => exact ⟨true, ⟨0, -1074, false⟩, by decide +kernel, rfl⟩

theorem positionalText_zero (exponent : Int) : ∃ whole fraction, whole ≠ [] ∧
    (Style.setting.positionalText ['0'] exponent).toList = whole ++ '.' :: fraction ∧
    ∀ c ∈ whole ++ fraction, c = '0' := by
  by_cases whole : 0 ≤ exponent
  · refine ⟨'0' :: List.replicate exponent.toNat '0', ['0'], by simp, ?_, ?_⟩
    · simp [Style.positionalText, Style.positionalParts, whole, Style.setting]
    · intro c member
      simp at member
      rcases member with zero | ⟨-, zero⟩ | zero <;> exact zero
  · refine ⟨['0'], List.replicate ((-exponent).toNat - 1) '0' ++ ['0'], by simp, ?_, ?_⟩
    · have outside : ¬ (-exponent).toNat < 1 := by omega
      simp [Style.positionalText, Style.positionalParts, whole, outside]
    · intro c member
      simp at member
      rcases member with zero | ⟨-, zero⟩ | zero <;> exact zero

/-- The digits of a double that is read back are not all zero, unless it is zero itself. -/
theorem coefficient_ne_zero {number : Float} {isNegative : Bool} {magnitude : Magnitude}
    (finite : Binary64.ofFloat number = .finite isNegative magnitude) (notZero : magnitude.mantissa ≠ 0)
    (readsBack : Decimal.float? (Style.setting.text number) = some number) :
    (magnitude.shortest .up).coefficient ≠ 0 := by
  intro zero
  obtain ⟨whole, fraction, present, shape, zeros⟩ :=
    positionalText_zero (magnitude.shortest .up).exponent
  have text := toList_text finite
  rw [if_neg notZero, zero, Nat.toDigits_zero, shape] at text
  have asZero := float?_zeros present zeros isNegative
  rw [← text, String.ofList_toList, readsBack] at asZero
  obtain ⟨sign, other, isZero, zeroMantissa⟩ := mantissa_zero isNegative
  rw [← Option.some.inj asZero, finite] at isZero
  cases isZero
  exact notZero zeroMantissa

/-- The text of a finite double has digits on both sides of a point. -/
theorem isPointed_text {number : Float} {isNegative : Bool} {magnitude : Magnitude}
    (finite : Binary64.ofFloat number = .finite isNegative magnitude)
    (readsBack : Decimal.float? (Style.setting.text number) = some number) :
    ∃ text, (Style.setting.text number).toList = (if isNegative then ['-'] else []) ++ text ∧
      IsPointed text := by
  refine ⟨_, toList_text finite, ?_⟩
  split
  · refine ⟨['0'], ['0'], rfl, ?_, by simp, by simp⟩
    exact isWholePart_toDigits 0
  · rename_i notZero
    have coefficient := coefficient_ne_zero finite notZero readsBack
    refine isPointed_positionalText (isWholePart_toDigits _) ?_ _
    intro zero
    apply coefficient
    exact Json.eq_zero_of_head_toDigits _ (by rw [zero]; rfl)

theorem not_isNaN_of_ofFloat {number : Float} (isNumber : number.isNaN = false) :
    Binary64.ofFloat number ≠ .notANumber := by
  intro asNaN
  rw [Decimal.eq_of_ofFloat_notANumber asNaN] at isNumber
  revert isNumber
  decide +kernel

/-- A float is read back from its text, if its digits are. -/
theorem scalar_float {number : Float} {rest : List Char}
    (readsBack : Decimal.float? (Style.setting.text number) = some number)
    (ends : GoesOnWith endings rest) :
    scalar (floatText number ++ rest) = some (.float number, rest) := by
  cases isNaN : number.isNaN with
  | true =>
    rw [floatText, if_pos isNaN, Decimal.eq_notANumber_of_isNaN isNaN]
    rfl
  | false =>
    rw [floatText, if_neg (Bool.eq_false_iff.mp isNaN)]
    cases value : Binary64.ofFloat number with
    | notANumber => exact absurd value (not_isNaN_of_ofFloat isNaN)
    | infinite isNegative =>
      have same := Decimal.eq_of_ofFloat_infinite value
      have text : (Style.setting.text number).toList =
          (if isNegative then "-inf" else "inf").toList := by
        rw [Style.text, value]
      rw [text, same]
      cases isNegative <;> rfl
    | finite isNegative magnitude =>
      obtain ⟨text, shape, whole, fraction, rfl, isWhole, present, fractionDigits⟩ :=
        isPointed_text value readsBack
      have read := decimalNumber_point isWhole fractionDigits present ends isNegative
      have known : float? ((if isNegative then ['-'] else []) ++ whole ++ '.' :: fraction) =
          some (.float number) := by
        have notInfinite : (number == Decimal.infinity) = false := by
          apply Bool.eq_false_iff.mpr
          intro equal
          obtain ⟨sign, infinite⟩ := Decimal.ofFloat_of_beq_infinity equal
          cases value.symm.trans infinite
        rw [float?, List.append_assoc, ← shape, String.ofList_toList, readsBack]
        simp [notInfinite]
      rw [known] at read
      rw [shape, List.append_assoc, List.append_assoc]
      exact (scalar_signed isWhole (goesOnWith_cons (c := '.') List.mem_cons_self _) isNegative).trans read

/-- Whether the digits that a value is written with stand for it. -/
def IsReadBack : Value → Prop
  | .float number => Decimal.float? (Style.setting.text number) = some number
  | _ => True

/-- A value that can be written on one line is read back from it. -/
theorem scalar_scalarText {value : Value} {text rest : List Char} (readBack : IsReadBack value)
    (written : scalarText? value = some text) (ends : GoesOnWith endings rest) :
    scalar (text ++ rest) = some (value, rest) := by
  cases value with
  | boolean value =>
    obtain rfl := Option.some.inj written
    exact scalar_boolean value rest
  | integer value =>
    rw [scalarText?] at written
    split at written
    · rename_i writable
      obtain rfl := Option.some.inj written
      exact scalar_integer writable ends
    · cases written
  | float number =>
    obtain rfl := Option.some.inj written
    exact scalar_float readBack ends
  | string source =>
    obtain rfl := Option.some.inj written
    rw [scalar_quoted source.toList ends, String.ofList_toList]
  | datetime => cases written
  | array items => cases written
  | table entries => cases written

end Dashboard.Toml
