import Dashboard.Decimal.Shortest

namespace Dashboard.Decimal

structure Style where
  /-- The least and the greatest exponent of the leading digit that is written positionally;
  without a range every number is. -/
  positional : Option (Int × Int)
  /-- Whether a whole number written positionally ends in `.0`. -/
  wholePoint : Bool
  /-- Whether a positive exponent carries its sign. -/
  exponentPlus : Bool
  tie : Tie
deriving Repr

/-- Numbers in JSON texts: a point always, an exponent from `1e+16` and below `0.00001`. -/
def Style.json : Style := ⟨some (-5, 15), true, true, .even⟩

/-- Numbers in diagnostic texts: a point always, a bare exponent from `1e16` and below `0.0001`. -/
def Style.diagnostic : Style := ⟨some (-4, 15), true, false, .up⟩

/-- Numbers in messages: every digit is written and a whole number has no point. -/
def Style.plain : Style := ⟨none, false, false, .up⟩

/-- Numbers in configuration files: every digit is written and a whole number ends in `.0`. -/
def Style.setting : Style := ⟨none, true, false, .up⟩

namespace Style

/-- Digits before and after the decimal point of `digits * 10 ^ exponent`. -/
def positionalParts (digits : List Char) (exponent : Int) : List Char × List Char :=
  if 0 ≤ exponent then (digits ++ List.replicate exponent.toNat '0', [])
  else
    let after := (-exponent).toNat
    if after < digits.length then
      (digits.take (digits.length - after), digits.drop (digits.length - after))
    else (['0'], List.replicate (after - digits.length) '0' ++ digits)

def positionalText (style : Style) (digits : List Char) (exponent : Int) : String :=
  let (before, after) := positionalParts digits exponent
  String.ofList before ++
    if after.isEmpty then (if style.wholePoint then ".0" else "")
    else "." ++ String.ofList after

private def exponentText (style : Style) (digits : List Char) (leading : Int) : String :=
  let mantissa := match digits with
    | first :: second :: rest => [first, '.', second] ++ rest
    | _ => digits
  let sign := if leading < 0 then "-" else if style.exponentPlus then "+" else ""
  String.ofList mantissa ++ "e" ++ sign ++ toString leading.natAbs

def scientificText (style : Style) (number : Scientific) : String :=
  let digits := Nat.toDigits 10 number.coefficient
  let leading := number.exponent + (digits.length : Int) - 1
  match style.positional with
  | none => style.positionalText digits number.exponent
  | some (least, greatest) =>
    if least ≤ leading ∧ leading ≤ greatest then style.positionalText digits number.exponent
    else style.exponentText digits leading

/-- The text of a double; zeros keep their sign. -/
def text (style : Style) (number : Float) : String :=
  match Binary64.ofFloat number with
  | .notANumber => "NaN"
  | .infinite negative => if negative then "-inf" else "inf"
  | .finite negative magnitude =>
    (if negative then "-" else "") ++
      if magnitude.mantissa = 0 then (if style.wholePoint then "0.0" else "0")
      else style.scientificText (magnitude.shortest style.tie)

end Style
end Dashboard.Decimal
