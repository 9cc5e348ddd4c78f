import Dashboard.Json.Fault
import Dashboard.Json.Value

/-! Reading numbers. A whole number that 64 bits hold is kept exactly. For any other the leading
digits that 64 bits hold are scaled by a power of ten, so that the result may be off in its last
place. -/

namespace Dashboard.Json

def takeDigits (input : List Symbol) : List Nat × List Symbol :=
  match input with
  | .char c :: rest =>
    if c.isDigit then
      let (digits, rest) := takeDigits rest
      ((c.toNat - 48) :: digits, rest)
    else ([], input)
  | _ => ([], input)

/-- The number that `start` and the digits behind it write, as far as 64 bits hold it, and how many
digits that takes. -/
def fit (start : Nat) : List Nat → Nat × Nat
  | [] => (start, 0)
  | digit :: rest =>
    if 10 * start + digit < 0x10000000000000000 then
      let (number, used) := fit (10 * start + digit) rest
      (number, used + 1)
    else (start, 0)

/-- The largest exponent that is applied in one step. -/
def largestStep : Nat := 308

def powerOfTen (exponent : Nat) : Float := Float.ofScientific 1 false exponent

/-- Applies an exponent in steps; positive ones beyond one step are refused and negative ones
reach zero within two. -/
def applyExponent : Nat → Float → Int → Option Float
  | 0, number, _ => some number
  | steps + 1, number, exponent =>
    if exponent.natAbs ≤ largestStep then
      if 0 ≤ exponent then
        let scaled := number * powerOfTen exponent.natAbs
        if scaled.isInf then none else some scaled
      else some (number / powerOfTen exponent.natAbs)
    else if number == 0.0 then some number
    else if 0 ≤ exponent then none
    else applyExponent steps (number / powerOfTen largestStep) (exponent + largestStep)

/-- `significand * 10 ^ exponent`, unless it is infinite. -/
def scaled? (significand : Nat) (exponent : Int) : Option Float :=
  applyExponent 4 (Float.ofNat significand) exponent

def signed (isNegative : Bool) (magnitude : Float) : Float :=
  if isNegative then -magnitude else magnitude

/-- Digits that have been read: `significand * 10 ^ exponent` with a sign. -/
structure Digits where
  isNegative : Bool
  significand : Nat
  exponent : Int

/-- The float that digits stand for, when the number ends right before `rest`. -/
def Digits.float (digits : Digits) (rest : List Symbol) : Except Fault (Number × List Symbol) :=
  match scaled? digits.significand digits.exponent with
  | some magnitude => .ok (.float (signed digits.isNegative magnitude), rest)
  | none => .error (.before .numberOutOfRange rest)

def largestExponent : Nat := 0x7fffffff

/-- The value of the digits of an exponent, or where it leaves the range. -/
def exponentValue (value : Nat) (input : List Symbol) : Except (List Symbol) (Nat × List Symbol) :=
  match input with
  | .char c :: rest =>
    if c.isDigit then
      let value := 10 * value + (c.toNat - 48)
      if largestExponent < value then .error rest else exponentValue value rest
    else .ok (value, input)
  | _ => .ok (value, input)

/-- The sign of an exponent: whether it is negative, and what follows. -/
def exponentSign : List Symbol → Bool × List Symbol
  | .char '+' :: rest => (false, rest)
  | .char '-' :: rest => (true, rest)
  | rest => (false, rest)

/-- Reads an exponent behind its mark. One beyond the range makes the number zero, or is refused
when it would make it infinite. -/
def exponentPart (digits : Digits) : Reader Number := fun input =>
  let (isNegative, input) := exponentSign input
  match input with
  | [] => .error (.before .endInValue [])
  | .char c :: _ =>
    if c.isDigit then
      match exponentValue 0 input with
      | .ok (value, rest) =>
        let exponent := if isNegative then -(value : Int) else value
        { digits with exponent := digits.exponent + exponent }.float rest
      | .error rest =>
        if digits.significand ≠ 0 && !isNegative then .error (.before .numberOutOfRange rest)
        else .ok (.float (signed digits.isNegative 0.0), (takeDigits rest).2)
    else .error (.inside .badNumber input)
  | .stray _ :: _ => .error (.inside .badNumber input)

def isExponentMark (c : Char) : Bool := c == 'e' || c == 'E'

/-- Reads the fraction of a number behind its point. -/
def fractionPart (digits : Digits) : Reader Number := fun input =>
  let (fraction, rest) := takeDigits input
  if fraction.isEmpty then
    .error (.inside (if rest.isEmpty then .endInValue else .badNumber) rest)
  else
    let (significand, used) := fit digits.significand fraction
    let digits := { digits with significand := significand, exponent := digits.exponent - used }
    match rest with
    | .char c :: more => if isExponentMark c then exponentPart digits more else digits.float rest
    | _ => digits.float rest

/-- A whole number that 64 bits hold with this sign; a negative zero is a float. -/
def wholeNumber (isNegative : Bool) (magnitude : Nat) : Number :=
  if !isNegative then .integer magnitude
  else if 0 < magnitude ∧ magnitude ≤ 0x8000000000000000 then .integer (-magnitude)
  else .float (-(Float.ofNat magnitude))

def afterWhole (isNegative : Bool) (whole : List Nat) : Reader Number := fun rest =>
  let (significand, used) := fit 0 whole
  let digits : Digits := ⟨isNegative, significand, (whole.length - used : Nat)⟩
  let plain : Except Fault (Number × List Symbol) :=
    if used = whole.length then .ok (wholeNumber isNegative significand, rest)
    else digits.float rest
  match rest with
  | .char c :: more =>
    if c = '.' then fractionPart digits more
    else if isExponentMark c then exponentPart digits more
    else plain
  | _ => plain

def startsWithDigit : List Symbol → Bool
  | .char c :: _ => c.isDigit
  | _ => false

/-- Reads a number behind its sign. A leading zero stands alone. -/
def magnitude (isNegative : Bool) : Reader Number := fun input =>
  match input with
  | [] => .error (.before .endInValue [])
  | .char c :: rest =>
    if c = '0' then
      if startsWithDigit rest then .error (.inside .badNumber rest)
      else afterWhole isNegative [0] rest
    else if c.isDigit then
      let (digits, rest) := takeDigits input
      afterWhole isNegative digits rest
    else .error (.inside .badNumber input)
  | .stray _ :: _ => .error (.inside .badNumber input)

def numeral : Reader Number := fun input =>
  match input with
  | .char '-' :: rest => magnitude true rest
  | _ => magnitude false input

def skipExponent (input : List Symbol) : Except Fault (List Symbol) :=
  let (_, input) := exponentSign input
  if startsWithDigit input then .ok (takeDigits input).2 else .error (.inside .badNumber input)

def skipFraction (input : List Symbol) : Except Fault (List Symbol) :=
  let (fraction, rest) := takeDigits input
  if fraction.isEmpty then .error (.inside .badNumber rest)
  else match rest with
    | .char c :: more => if isExponentMark c then skipExponent more else .ok rest
    | _ => .ok rest

/-- Passes over what follows the digits before the point. -/
def skipAfterWhole (input : List Symbol) : Except Fault (List Symbol) :=
  match input with
  | .char c :: rest =>
    if c = '.' then skipFraction rest
    else if isExponentMark c then skipExponent rest
    else .ok input
  | _ => .ok input

def skipMagnitude (input : List Symbol) : Except Fault (List Symbol) :=
  match input with
  | .char c :: rest =>
    if c = '0' then
      if startsWithDigit rest then .error (.inside .badNumber rest) else skipAfterWhole rest
    else if c.isDigit then skipAfterWhole (takeDigits input).2
    else .error (.inside .badNumber input)
  | _ => .error (.inside .badNumber input)

end Dashboard.Json
