import Dashboard.Text.Hex
import Mathlib.Data.List.Induction
import Mathlib.Tactic.IntervalCases

namespace Dashboard.Text

/-- The number that digits stand for in a base, the first digit being the highest. -/
def positional (base : Nat) (digits : List Nat) : Nat :=
  digits.foldl (fun value digit => base * value + digit) 0

theorem positional_append_singleton (base : Nat) (digits : List Nat) (digit : Nat) :
    positional base (digits ++ [digit]) = base * positional base digits + digit := by
  simp [positional]

/-- The digits of a number in a base have its value. -/
theorem exists_positional {base : Nat} (bound : 1 < base) (number : Nat) :
    ∃ digits, Nat.toDigits base number = digits.map Nat.digitChar ∧
      (∀ digit ∈ digits, digit < base) ∧ positional base digits = number := by
  induction number using Nat.strongRecOn with
  | ind number inductionHypothesis =>
    by_cases small : number < base
    · refine ⟨[number], ?_, by simpa using small, by simp [positional]⟩
      rw [Nat.toDigits_of_lt_base small, List.map_singleton]
    · obtain ⟨front, written, below, value⟩ :=
        inductionHypothesis (number / base) (Nat.div_lt_self (by omega) bound)
      have last : number % base < base := Nat.mod_lt _ (by omega)
      refine ⟨front ++ [number % base], ?_, ?_, ?_⟩
      · rw [Nat.toDigits_of_base_le bound (by omega), written, List.map_append, List.map_singleton]
      · simpa [or_imp, forall_and, last] using below
      · rw [positional_append_singleton, value, Nat.div_add_mod]

/-- Digits are those of their value, with zeros in front. -/
theorem map_digitChar_eq {base : Nat} (bound : 1 < base) {digits : List Nat} (present : digits ≠ [])
    (below : ∀ digit ∈ digits, digit < base) :
    ∃ zeros, digits.map Nat.digitChar =
      List.replicate zeros '0' ++ Nat.toDigits base (positional base digits) := by
  induction digits using List.reverseRecOn with
  | nil => exact absurd rfl present
  | append_singleton front digit inductionHypothesis =>
    have last : digit < base := below digit (by simp)
    by_cases single : front = []
    · exact ⟨0, by simp [single, positional, Nat.toDigits_of_lt_base last]⟩
    · obtain ⟨zeros, written⟩ := inductionHypothesis single
        fun other before => below other (List.mem_append_left _ before)
      rw [List.map_append, written, positional_append_singleton]
      by_cases zero : positional base front = 0
      · refine ⟨zeros + 1, ?_⟩
        rw [zero, Nat.toDigits_zero, Nat.mul_zero, Nat.zero_add, Nat.toDigits_of_lt_base last,
          List.replicate_succ', List.map_singleton]
      · refine ⟨zeros, ?_⟩
        rw [← Nat.toDigits_append_toDigits bound (Nat.pos_of_ne_zero zero) last,
          Nat.toDigits_of_lt_base last, List.append_assoc, List.map_singleton]

/-- A decimal digit is the digit of its value. -/
theorem digitChar_of_isDigit {c : Char} (decimal : c.isDigit = true) :
    c.toNat - 48 < 10 ∧ Nat.digitChar (c.toNat - 48) = c := by
  have range : 48 ≤ c.toNat ∧ c.toNat ≤ 57 := by
    simpa [Char.isDigit, UInt32.le_iff_toNat_le] using decimal
  have known : c = Char.ofNat c.toNat := (Char.ofNat_toNat c).symm
  generalize c.toNat = code at known range
  subst known
  obtain ⟨low, high⟩ := range
  interval_cases code <;> exact ⟨by decide, rfl⟩

/-- Decimal digits without a zero in front are the digits of their value. -/
theorem toDigits_ofDigitChars {text : List Char} (present : text ≠ [])
    (decimal : ∀ c ∈ text, c.isDigit = true) (leading : text.length ≤ 1 ∨ text.head? ≠ some '0') :
    Nat.toDigits 10 (Nat.ofDigitChars 10 text 0) = text := by
  let values := text.map fun c => c.toNat - 48
  have written : values.map Nat.digitChar = text := by
    rw [List.map_map]
    exact (List.map_congr_left fun c member =>
      (digitChar_of_isDigit (decimal c member)).2).trans (List.map_id text)
  have value : positional 10 values = Nat.ofDigitChars 10 text 0 := List.foldl_map
  have below : ∀ digit ∈ values, digit < 10 :=
    List.forall_mem_map.mpr fun c member => (digitChar_of_isDigit (decimal c member)).1
  obtain ⟨zeros, split⟩ := map_digitChar_eq (by decide) (by simpa [values] using present) below
  rw [written, value] at split
  cases zeros with
  | zero => exact split.symm
  | succ zeros =>
    -- A zero in front of the others makes the text longer than one digit.
    have more : 0 < (Nat.toDigits 10 (Nat.ofDigitChars 10 text 0)).length := Nat.length_toDigits_pos
    obtain short | other := leading
    · rw [split] at short
      simp only [List.length_append, List.length_replicate] at short
      omega
    · exact absurd (by rw [split]; rfl) other

namespace Hex

theorem digit?_toLower (c : Char) : digit? c.toLower = digit? c := by
  by_cases upper : 65 ≤ c.toNat ∧ c.toNat ≤ 90
  · obtain ⟨low, high⟩ := upper
    have known : c = Char.ofNat c.toNat := (Char.ofNat_toNat c).symm
    generalize c.toNat = code at *
    subst known
    interval_cases code <;> rfl
  · have same : c.toLower = c := dif_neg (by simpa [UInt32.le_iff_toNat_le] using upper)
    rw [same]

theorem isSome_digit?_of_isDigit {c : Char} (decimal : c.isDigit = true) : (digit? c).isSome := by
  obtain ⟨below, written⟩ := digitChar_of_isDigit decimal
  rw [← written, digit?_digitChar (by omega)]
  rfl

theorem digit?_range {c : Char} {digit : Nat} (read : digit? c = some digit) :
    48 ≤ c.toNat ∧ c.toNat ≤ 57 ∨ 97 ≤ c.toNat ∧ c.toNat ≤ 102 ∨ 65 ≤ c.toNat ∧ c.toNat ≤ 70 := by
  simp only [digit?, Bool.and_eq_true, decide_eq_true_eq, Char.le_def, UInt32.le_iff_toNat_le] at read
  split at read
  case isTrue decimal => exact .inl decimal
  case isFalse =>
    split at read
    case isTrue lower => exact .inr (.inl lower)
    case isFalse =>
      split at read
      case isTrue upper => exact .inr (.inr upper)
      case isFalse => cases read

theorem digit?_eq_some_iff {c : Char} {digit : Nat} :
    digit? c = some digit ↔ digit < 16 ∧ c.toLower = Nat.digitChar digit := by
  constructor
  · intro read
    have known : c = Char.ofNat c.toNat := (Char.ofNat_toNat c).symm
    have range := digit?_range read
    generalize c.toNat = code at known range
    subst known
    obtain ⟨low, high⟩ | ⟨low, high⟩ | ⟨low, high⟩ := range <;>
      interval_cases code <;> cases read <;> exact ⟨by decide, rfl⟩
  · rintro ⟨below, lower⟩
    rw [← digit?_toLower, lower, digit?_digitChar below]

/-- A number is read off its digits, in either case. -/
theorem value?_eq_some_iff {text : List Char} {value : Nat} :
    value? text = some value ↔ ∃ digits, (∀ digit ∈ digits, digit < 16) ∧
      text.map Char.toLower = digits.map Nat.digitChar ∧ positional 16 digits = value := by
  induction text using List.reverseRecOn generalizing value with
  | nil => simp [value?, positional, eq_comm]
  | append_singleton front c inductionHypothesis =>
    have read : value? (front ++ [c]) =
        (value? front).bind fun number => (digit? c).map (16 * number + ·) := by
      simp [value?, List.foldlM_append]
    rw [read]
    constructor
    · intro found
      obtain ⟨number, readFront, readLast⟩ := Option.bind_eq_some_iff.mp found
      obtain ⟨digit, isDigit, rfl⟩ := Option.map_eq_some_iff.mp readLast
      obtain ⟨digits, below, lower, rfl⟩ := inductionHypothesis.mp readFront
      obtain ⟨small, lowerLast⟩ := digit?_eq_some_iff.mp isDigit
      refine ⟨digits ++ [digit], ?_, ?_, positional_append_singleton 16 digits digit⟩
      · simpa [or_imp, forall_and, small] using below
      · rw [List.map_append, List.map_append, lower, List.map_singleton, List.map_singleton, lowerLast]
    · rintro ⟨digits, below, lower, rfl⟩
      cases digits using List.reverseRecOn with
      | nil => simp at lower
      | append_singleton others digit =>
        simp only [List.map_append, List.map_singleton] at lower
        obtain ⟨lowerFront, lowerLast⟩ := List.append_inj' lower rfl
        have readFront := inductionHypothesis.mpr
          ⟨others, fun other before => below other (List.mem_append_left _ before), lowerFront, rfl⟩
        have isDigit := digit?_eq_some_iff.mpr ⟨below digit (by simp), List.singleton_inj.mp lowerLast⟩
        simp [readFront, isDigit, positional_append_singleton]

end Hex
end Dashboard.Text
