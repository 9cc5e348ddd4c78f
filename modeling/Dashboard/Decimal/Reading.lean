namespace Dashboard.Decimal

/-- The double nearest to `coefficient * 10 ^ exponent`. Exponents beyond the range of doubles
are answered without computing the power. -/
def nearestFloat (coefficient : Nat) (exponent : Int) : Float :=
  let size := ((Nat.toDigits 10 coefficient).length : Int) + exponent
  if coefficient = 0 || size < -400 then 0.0
  else if size > 400 then 1.0 / 0.0
  else if exponent < 0 then Float.ofScientific coefficient true exponent.natAbs
  else Float.ofScientific coefficient false exponent.natAbs

def infinity : Float := 1.0 / 0.0

def notANumber : Float := 0.0 / 0.0

/-- The value of a list of decimal digits, continuing from `start`. -/
def digitsValue (start : Nat) (digits : List Char) : Nat :=
  digits.foldl (fun value digit => 10 * value + (digit.toNat - 48)) start

/-- A sign in front of a number and what follows it. -/
def takeSign : List Char → Bool × List Char
  | '-' :: rest => (true, rest)
  | '+' :: rest => (false, rest)
  | rest => (false, rest)

/-- The exponent part of a number: nothing, or `e` with a signed whole number. -/
def exponentPart : List Char → Option Int
  | [] => some 0
  | mark :: rest =>
    if mark = 'e' || mark = 'E' then
      let (negative, digits) := takeSign rest
      if digits.isEmpty || !digits.all Char.isDigit then none
      else
        let size : Int := digitsValue 0 digits
        some (if negative then -size else size)
    else none

/-- A number without sign: digits with an optional point, at least one digit, and an optional
exponent. -/
def unsignedNumber (text : List Char) : Option Float :=
  let whole := text.takeWhile Char.isDigit
  let rest := text.dropWhile Char.isDigit
  let (fraction, rest) := match rest with
    | '.' :: after => (after.takeWhile Char.isDigit, after.dropWhile Char.isDigit)
    | _ => ([], rest)
  if whole.isEmpty && fraction.isEmpty then none
  else (exponentPart rest).map fun exponent =>
    nearestFloat (digitsValue 0 (whole ++ fraction)) (exponent - fraction.length)

/-- Reads a double from the whole of a text: a signed decimal number with optional point and
exponent, or one of the words `nan`, `inf` and `infinity` in any case. -/
def float? (text : String) : Option Float :=
  let (negative, rest) := takeSign text.toList
  let magnitude :=
    match String.ofList (rest.map Char.toLower) with
    | "nan" => some notANumber
    | "inf" | "infinity" => some infinity
    | _ => unsignedNumber rest
  magnitude.map fun value => if negative then -value else value

end Dashboard.Decimal
