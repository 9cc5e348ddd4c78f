namespace Dashboard

/-- A span of time in whole nanoseconds. -/
structure Duration where
  nanos : Nat
deriving DecidableEq, Repr, Inhabited

namespace Duration

def nanosPerSecond : Nat := 1000000000
def nanosPerMillisecond : Nat := 1000000

def zero : Duration := ⟨0⟩

def ofSeconds (seconds : Nat) : Duration := ⟨seconds * nanosPerSecond⟩

def ofMilliseconds (milliseconds : Nat) : Duration := ⟨milliseconds * nanosPerMillisecond⟩

def ofParts (seconds nanos : Nat) : Duration := ⟨seconds * nanosPerSecond + nanos⟩

def wholeSeconds (span : Duration) : Nat := span.nanos / nanosPerSecond

def subsecondNanos (span : Duration) : Nat := span.nanos % nanosPerSecond

/-- The longest span that has a 64-bit count of whole seconds. -/
def longest : Duration := ofParts 0xffffffffffffffff 999999999

instance : LE Duration := ⟨fun first second => first.nanos ≤ second.nanos⟩
instance : LT Duration := ⟨fun first second => first.nanos < second.nanos⟩
instance (first second : Duration) : Decidable (first ≤ second) :=
  inferInstanceAs (Decidable (first.nanos ≤ second.nanos))
instance (first second : Duration) : Decidable (first < second) :=
  inferInstanceAs (Decidable (first.nanos < second.nanos))
instance : Add Duration := ⟨fun first second => ⟨first.nanos + second.nanos⟩⟩

def max (first second : Duration) : Duration := ⟨Nat.max first.nanos second.nanos⟩

theorem le_iff {first second : Duration} : first ≤ second ↔ first.nanos ≤ second.nanos := Iff.rfl

theorem lt_iff {first second : Duration} : first < second ↔ first.nanos < second.nanos := Iff.rfl

/-- Seconds as a float: the whole seconds and the fraction are each rounded
before they are added. -/
def seconds (span : Duration) : Float :=
  Float.ofNat span.wholeSeconds + Float.ofNat span.subsecondNanos / 1e9

/-- The fraction digits of `part / scale` without trailing zeros, for a power of ten `scale`. -/
private def fractionDigits (part scale : Nat) : List Char :=
  let width := (Nat.toDigits 10 scale).length - 1
  let digits := Nat.toDigits 10 part
  let padded := List.replicate (width - digits.length) '0' ++ digits
  (padded.reverse.dropWhile (· == '0')).reverse

private def inUnit (whole part scale : Nat) (unit : String) : String :=
  let fraction := fractionDigits part scale
  if fraction.isEmpty then toString whole ++ unit
  else toString whole ++ "." ++ String.ofList fraction ++ unit

/-- The span in its largest fitting unit with an exact fraction, as in `1.5s` or `20ms`. -/
def text (span : Duration) : String :=
  let nanos := span.nanos
  if nanos ≥ 1000000000 then inUnit (nanos / 1000000000) (nanos % 1000000000) 1000000000 "s"
  else if nanos ≥ 1000000 then inUnit (nanos / 1000000) (nanos % 1000000) 1000000 "ms"
  else if nanos ≥ 1000 then inUnit (nanos / 1000) (nanos % 1000) 1000 "µs"
  else toString nanos ++ "ns"

end Duration
end Dashboard
