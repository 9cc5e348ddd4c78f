import Dashboard.Proofs.Json.Quoted
import Mathlib.Algebra.Ring.Int.Defs

namespace Dashboard.Json

open Dashboard.Json.Symbol (ofChars)

/-- Whether a number in front of this text is at its end. -/
def endsNumber : List Symbol → Bool
  | .char c :: _ => !c.isDigit && c != '.' && !isExponentMark c
  | _ => true

theorem not_startsWithDigit {rest : List Symbol} (ends : endsNumber rest = true) :
    startsWithDigit rest = false := by
  cases rest with
  | nil => rfl
  | cons symbol more =>
    cases symbol with
    | stray byte => rfl
    | char c =>
      simp only [endsNumber, Bool.and_eq_true, Bool.not_eq_true'] at ends
      exact ends.1.1

theorem takeDigits_ofChars {chars : List Char} {rest : List Symbol}
    (digits : ∀ c ∈ chars, c.isDigit = true) (ends : startsWithDigit rest = false) :
    takeDigits (ofChars chars ++ rest) = (chars.map fun c => c.toNat - 48, rest) := by
  induction chars with
  | nil =>
    cases rest with
    | nil => rfl
    | cons symbol more =>
      cases symbol with
      | stray byte => rfl
      | char c =>
        have other : c.isDigit = false := ends
        simp [takeDigits, other]
  | cons c chars inductionHypothesis =>
    have taken := inductionHypothesis fun other present => digits other (List.mem_cons_of_mem c present)
    have digit : c.isDigit = true := digits c List.mem_cons_self
    simp [takeDigits, digit, taken]

theorem le_ofDigitChars (chars : List Char) (start : Nat) :
    start ≤ Nat.ofDigitChars 10 chars start := by
  induction chars generalizing start with
  | nil => exact Nat.le_refl start
  | cons c chars inductionHypothesis =>
    rw [Nat.ofDigitChars_cons]
    refine Nat.le_trans ?_ (inductionHypothesis _)
    omega

/-- Digits whose number 64 bits hold are all used. -/
theorem fit_digits (chars : List Char) {start : Nat}
    (small : Nat.ofDigitChars 10 chars start < 0x10000000000000000) :
    fit start (chars.map fun c => c.toNat - 48) =
      (Nat.ofDigitChars 10 chars start, chars.length) := by
  induction chars generalizing start with
  | nil => rfl
  | cons c chars inductionHypothesis =>
    rw [Nat.ofDigitChars_cons] at small ⊢
    have first : 10 * start + (c.toNat - 48) < 0x10000000000000000 :=
      Nat.lt_of_le_of_lt (le_ofDigitChars chars _) small
    have others := inductionHypothesis small
    rw [List.map_cons, fit, if_pos first]
    simp only [show '0'.toNat = 48 from rfl] at others ⊢
    rw [others]
    rfl

theorem toDigits_isDigit {number : Nat} {c : Char} (present : c ∈ Nat.toDigits 10 number) :
    c.isDigit = true :=
  Nat.isDigit_of_mem_toDigits (by decide) (Nat.le_refl 10) present

/-- Only zero is written with a zero in front. -/
theorem eq_zero_of_head_toDigits (number : Nat) (zero : (Nat.toDigits 10 number).head? = some '0') :
    number = 0 := by
  induction number using Nat.strongRecOn with
  | ind number inductionHypothesis =>
    rw [Nat.toDigits_eq_if (by decide)] at zero
    split at zero
    · exact Nat.digitChar_eq_zero.mp (Option.some.inj zero)
    · rename_i large
      have front : (Nat.toDigits 10 (number / 10)).head? = some '0' := by
        cases digits : Nat.toDigits 10 (number / 10) with
        | nil => exact absurd digits Nat.toDigits_ne_nil
        | cons c more => simpa [digits] using zero
      have vanishes := inductionHypothesis (number / 10) (by omega) front
      omega

theorem afterWhole_of_endsNumber {whole : List Nat} {number : Nat} {rest : List Symbol}
    (isNegative : Bool) (fits : fit 0 whole = (number, whole.length)) (ends : endsNumber rest = true) :
    afterWhole isNegative whole rest = .ok (wholeNumber isNegative number, rest) := by
  cases rest with
  | nil => simp [afterWhole, fits]
  | cons symbol more =>
    cases symbol with
    | stray byte => simp [afterWhole, fits]
    | char c =>
      simp only [endsNumber, Bool.and_eq_true, Bool.not_eq_true', bne_iff_ne] at ends
      obtain ⟨⟨-, noPoint⟩, noExponent⟩ := ends
      simp [afterWhole, fits, noPoint, noExponent]

/-- The digits of a number that 64 bits hold, behind its sign. -/
theorem magnitude_toDigits {number : Nat} {rest : List Symbol} (isNegative : Bool)
    (small : number < 0x10000000000000000) (ends : endsNumber rest = true) :
    magnitude isNegative (ofChars (Nat.toDigits 10 number) ++ rest) =
      .ok (wholeNumber isNegative number, rest) := by
  have noDigit := not_startsWithDigit ends
  have fits := fit_digits (Nat.toDigits 10 number) (by rwa [Nat.ofDigitChars_ten_toDigits])
  rw [Nat.ofDigitChars_ten_toDigits] at fits
  have read := afterWhole_of_endsNumber isNegative (fits.trans (by rw [List.length_map])) ends
  have allDigits : ∀ c ∈ Nat.toDigits 10 number, c.isDigit = true := fun _ => toDigits_isDigit
  have taken := takeDigits_ofChars allDigits noDigit
  cases digits : Nat.toDigits 10 number with
  | nil => exact absurd digits Nat.toDigits_ne_nil
  | cons c more =>
    by_cases zero : c = '0'
    · -- The reader takes no digit behind a leading zero, and there is none.
      have vanishes := eq_zero_of_head_toDigits number (by rw [digits, zero]; rfl)
      rw [vanishes, Nat.toDigits_zero] at digits read
      obtain ⟨-, rfl⟩ := List.cons.inj digits
      simpa [magnitude, zero, noDigit, vanishes] using read
    · have digit : c.isDigit = true := toDigits_isDigit (digits ▸ List.mem_cons_self)
      rw [digits] at taken read
      simp only [Symbol.ofChars_cons, List.cons_append] at taken ⊢
      simp only [magnitude, if_neg zero, digit, if_true, taken]
      exact read

/-- The whole numbers that JSON text keeps exactly: those that 64 bits hold, with a sign or
without. -/
def IsWhole (number : Int) : Prop := -2 ^ 63 ≤ number ∧ number < 2 ^ 64

/-- A number is written as its digits, with a sign in front of them if it is negative. -/
theorem text_integer (number : Int) :
    (Number.integer number).text =
      if 0 ≤ number then Nat.toDigits 10 number.natAbs else '-' :: Nat.toDigits 10 number.natAbs := by
  have written (n : Nat) : n.repr.toList = Nat.toDigits 10 n := by
    rw [Nat.repr_eq_ofList_toDigits, String.toList_ofList]
  rw [Number.text, Int.toString_eq_repr, Int.repr_eq_if]
  by_cases positive : 0 ≤ number
  · rw [if_pos positive, if_pos positive, written]
    congr 1
    omega
  · rw [if_neg positive, if_neg positive, String.toList_append, written]
    have same : (-number).toNat = number.natAbs := by omega
    rw [same]
    rfl

/-- Whether a number can start with a character. -/
def startsNumber (c : Char) : Bool := c == '-' || c.isDigit

theorem ne_of_startsNumber {c other : Char} (starts : startsNumber c = true)
    (unlike : startsNumber other = false) : c ≠ other := by
  rintro rfl
  cases starts.symm.trans unlike

theorem text_integer_eq_cons (number : Int) :
    ∃ c more, (Number.integer number).text = c :: more ∧ startsNumber c = true := by
  rw [text_integer]
  by_cases positive : 0 ≤ number
  · rw [if_pos positive]
    cases digits : Nat.toDigits 10 number.natAbs with
    | nil => exact absurd digits Nat.toDigits_ne_nil
    | cons c more =>
      have digit : c.isDigit = true := toDigits_isDigit (digits ▸ List.mem_cons_self)
      exact ⟨c, more, rfl, by simp [startsNumber, digit]⟩
  · rw [if_neg positive]
    exact ⟨'-', _, rfl, rfl⟩

theorem numeral_integer {number : Int} (whole : IsWhole number) {rest : List Symbol}
    (ends : endsNumber rest = true) :
    numeral (ofChars (Number.integer number).text ++ rest) = .ok (.integer number, rest) := by
  obtain ⟨least, greatest⟩ := whole
  have small : number.natAbs < 0x10000000000000000 := by omega
  rw [text_integer]
  by_cases positive : 0 ≤ number
  · have kept : wholeNumber false number.natAbs = .integer number := by
      simp only [wholeNumber, Bool.not_false, if_true, Number.integer.injEq]
      omega
    have read := magnitude_toDigits false small ends
    rw [if_pos positive, ← kept, ← read]
    -- A digit is no sign.
    cases digits : Nat.toDigits 10 number.natAbs with
    | nil => exact absurd digits Nat.toDigits_ne_nil
    | cons c more =>
      have digit : c.isDigit = true := toDigits_isDigit (digits ▸ List.mem_cons_self)
      have unsigned : c ≠ '-' := by
        rintro rfl
        cases digit
      simp [numeral, unsigned]
  · have kept : wholeNumber true number.natAbs = .integer number := by
      have range : 0 < number.natAbs ∧ number.natAbs ≤ 0x8000000000000000 := by omega
      simp only [wholeNumber, Bool.not_true, Bool.false_eq_true, if_false, if_pos range,
        Number.integer.injEq]
      omega
    rw [if_neg positive, ← kept]
    exact magnitude_toDigits true small ends

end Dashboard.Json
