import Dashboard.Time.Duration

namespace Dashboard

/-- A wall-clock reading in nanoseconds after 1970-01-01T00:00:00Z. -/
structure WallTime where
  nanos : Int
deriving DecidableEq, Repr, Inhabited

namespace WallTime

def after (start : WallTime) (span : Duration) : WallTime := ⟨start.nanos + span.nanos⟩

def before (start : WallTime) (span : Duration) : WallTime := ⟨start.nanos - span.nanos⟩

/-- Whole seconds after the epoch, rounded down. -/
def epochSeconds (time : WallTime) : Int := Int.fdiv time.nanos 1000000000

def subsecondNanos (time : WallTime) : Nat := (Int.fmod time.nanos 1000000000).toNat

structure Date where
  year : Int
  month : Nat
  day : Nat
deriving DecidableEq, Repr

/-- The date `days` after 1970-01-01. Years are counted from March, so that the leap
day is the last day of a year, in eras of 400 years. -/
def Date.ofEpochDays (days : Int) : Date :=
  let shifted := days + 719468
  let era := Int.fdiv shifted 146097
  let dayOfEra := (shifted - era * 146097).toNat
  let yearOfEra := (dayOfEra - dayOfEra / 1460 + dayOfEra / 36524 - dayOfEra / 146096) / 365
  let dayOfYear := dayOfEra - (365 * yearOfEra + yearOfEra / 4 - yearOfEra / 100)
  let monthFromMarch := (5 * dayOfYear + 2) / 153
  let day := dayOfYear - (153 * monthFromMarch + 2) / 5 + 1
  let month := if monthFromMarch < 10 then monthFromMarch + 3 else monthFromMarch - 9
  let year := (yearOfEra : Int) + era * 400
  ⟨if month ≤ 2 then year + 1 else year, month, day⟩

def date (time : WallTime) : Date := Date.ofEpochDays (Int.fdiv time.epochSeconds 86400)

def secondOfDay (time : WallTime) : Nat := (Int.fmod time.epochSeconds 86400).toNat

/-- `number` in decimal with leading zeros up to `width` digits. -/
def zeroPadded (width number : Nat) : String :=
  let digits := Nat.toDigits 10 number
  String.ofList (List.replicate (width - digits.length) '0' ++ digits)

def clockText (time : WallTime) : String :=
  let second := time.secondOfDay
  zeroPadded 2 (second / 3600) ++ ":" ++ zeroPadded 2 (second / 60 % 60) ++ ":" ++
    zeroPadded 2 (second % 60)

/-- Years of four digits stand alone; any other year carries its sign. -/
private def yearText (year : Int) : String :=
  if 0 ≤ year ∧ year ≤ 9999 then zeroPadded 4 year.toNat
  else (if year < 0 then "-" else "+") ++ zeroPadded 4 year.natAbs

/-- The fraction of a second in the fewest of 0, 3, 6 or 9 digits that are exact. -/
private def fractionText (nanos : Nat) : String :=
  if nanos = 0 then ""
  else if nanos % 1000000 = 0 then "." ++ zeroPadded 3 (nanos / 1000000)
  else if nanos % 1000 = 0 then "." ++ zeroPadded 6 (nanos / 1000)
  else "." ++ zeroPadded 9 nanos

/-- Date and time as in `2023-11-14T22:13:20.500Z`, with an exact fraction. -/
def text (time : WallTime) : String :=
  let date := time.date
  yearText date.year ++ "-" ++ zeroPadded 2 date.month ++ "-" ++ zeroPadded 2 date.day ++ "T" ++
    time.clockText ++ fractionText time.subsecondNanos ++ "Z"

example : (WallTime.mk 1700000000000000000).text = "2023-11-14T22:13:20Z" := by decide +kernel
example : (WallTime.mk 951782400000001000).text = "2000-02-29T00:00:00.000001Z" := by decide +kernel
example : (WallTime.mk (-1)).text = "1969-12-31T23:59:59.999999999Z" := by decide +kernel

end WallTime
end Dashboard
