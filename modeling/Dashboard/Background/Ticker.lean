import Dashboard.Time.Instant

/-! Periodic deadlines. A deadline is met with millisecond granularity, rounded up, so a tick is
never early. A ticker that finds itself late either makes the missed ticks up at once or starts
a new period at the late tick. -/

namespace Dashboard.Background

/-- The first millisecond not before a reading. -/
def millisecondUp (reading : Instant) : Int := -Int.fdiv (-reading.nanos) 1000000

/-- The last millisecond not after a reading. -/
def millisecondDown (reading : Instant) : Int := Int.fdiv reading.nanos 1000000

/-- The millisecond up to which timers have fired. It never goes back, even if the clock does. -/
structure Wheel where
  reached : Int
deriving DecidableEq, Repr

def Wheel.start (now : Instant) : Wheel := ⟨millisecondDown now⟩

def Wheel.turn (wheel : Wheel) (now : Instant) : Wheel :=
  ⟨max wheel.reached (millisecondDown now)⟩

/-- What a late ticker does with the ticks it missed. -/
inductive Missed where
  | catchUp
  | delay
deriving DecidableEq, Repr

/-- A deadline that comes back every period, which is never below a millisecond. -/
structure Ticker where
  missed : Missed
  period : Duration
  deadline : Instant
  periodBound : Duration.nanosPerMillisecond ≤ period.nanos

namespace Ticker

/-- The last reading that a deadline, rounded up, can have. -/
def lastDeadline : Instant := Instant.last.before ⟨999999⟩

/-- A tick this much behind its deadline still counts as on time. -/
def tolerance : Duration := Duration.ofMilliseconds 5

/-- Where the deadline goes when no reading is late enough for it. -/
def farAway : Duration := Duration.ofSeconds (86400 * 365 * 30)

/-- The deadline after a tick at `now`; a late ticker has none when it would pass the last reading.
`tolerance` and `farAway` are added without this bound: for a tick in the last five milliseconds
before the last reading, and for a far deadline that would pass it, the answer is that of a clock
which goes on. -/
def next? (ticker : Ticker) (now : Instant) : Option Instant :=
  if ticker.deadline.after tolerance < now then
    match ticker.missed with
    | .catchUp => ticker.deadline.add? ticker.period
    | .delay => now.add? ticker.period
  else some ((ticker.deadline.add? ticker.period).getD (now.after farAway))

def isDue (ticker : Ticker) (wheel : Wheel) : Bool := millisecondUp ticker.deadline ≤ wheel.reached

/-- The ticks due at `now`, and the ticker after them unless it ran out of readings. At most
`tries` ticks are looked at. -/
def runDue (wheel : Wheel) (now : Instant) : Nat → Ticker → Nat × Option Ticker
  | 0, ticker => (0, some ticker)
  | tries + 1, ticker =>
    if ticker.isDue wheel then
      match ticker.next? now with
      | none => (0, none)
      | some deadline =>
        let (ticks, rest) := runDue wheel now tries { ticker with deadline := deadline }
        (ticks + 1, rest)
    else (0, some ticker)

/-- The ticks due at `now`. Every tick moves the deadline by a millisecond or more, which bounds
their number. -/
def run (ticker : Ticker) (wheel : Wheel) (now : Instant) : Nat × Option Ticker :=
  runDue wheel now ((wheel.reached - millisecondDown ticker.deadline).toNat + 1) ticker

end Ticker
end Dashboard.Background
