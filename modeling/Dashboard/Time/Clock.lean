import Dashboard.Time.Instant
import Dashboard.Time.Calendar

namespace Dashboard

/-- The monotonic reading and the wall-clock time of one moment. -/
structure Clock where
  reading : Instant
  wall : WallTime
deriving DecidableEq, Repr

namespace Clock

def advance (clock : Clock) (span : Duration) : Clock :=
  ⟨clock.reading.after span, clock.wall.after span⟩

def rewind (clock : Clock) (span : Duration) : Clock :=
  ⟨clock.reading.before span, clock.wall.before span⟩

end Clock
end Dashboard
