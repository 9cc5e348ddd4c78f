import Dashboard.Time.Duration
import Dashboard.Decimal.Shortest

namespace Dashboard

/-- `numerator / denominator` to the nearest whole number, a half to the even neighbour. -/
def roundHalfEven (numerator denominator : Nat) : Nat :=
  let whole := numerator / denominator
  let twiceRest := 2 * (numerator % denominator)
  if twiceRest < denominator then whole
  else if denominator < twiceRest then whole + 1
  else if whole % 2 = 0 then whole else whole + 1

/-- The span of a number of seconds, to the nearest nanosecond. Negative numbers, and spans of
2^64 seconds or more, are no spans. -/
def Duration.ofFloatSeconds? (seconds : Float) : Option Duration :=
  match Decimal.Binary64.ofFloat seconds with
  | .notANumber => none
  | .infinite _ => none
  | .finite negative magnitude =>
    if negative && magnitude.mantissa ≠ 0 then none
    else
      let nanos := roundHalfEven
        ((magnitude.mantissa * nanosPerSecond) <<< magnitude.exponent.toNat)
        (1 <<< (-magnitude.exponent).toNat)
      if nanos < 0x10000000000000000 * nanosPerSecond then some ⟨nanos⟩ else none

end Dashboard
