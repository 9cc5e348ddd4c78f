import Dashboard.Time.Instant

namespace Dashboard.Metrics

/-- Counts of requests and the time they took. The sum of the times wraps at 64 bits; the counts
have no bound here, as 64 bits hold the requests of any run. -/
structure Requests where
  total : Nat
  limited : Nat
  latencyMicros : UInt64
  completed : Nat
  started : Instant
deriving DecidableEq, Repr

namespace Requests

def start (now : Instant) : Requests := ⟨0, 0, 0, 0, now⟩

/-- A request came in, admitted or not. -/
def request (requests : Requests) : Requests := { requests with total := requests.total + 1 }

def refuse (requests : Requests) : Requests := { requests with limited := requests.limited + 1 }

/-- Whole microseconds of a span, at most what 64 bits hold. -/
def micros (span : Duration) : UInt64 := UInt64.ofNat (min (span.nanos / 1000) 0xffffffffffffffff)

def complete (requests : Requests) (span : Duration) : Requests :=
  { requests with
    latencyMicros := requests.latencyMicros + micros span
    completed := requests.completed + 1 }

/-- The mean latency in milliseconds, zero before the first answer. -/
def averageMilliseconds (requests : Requests) : Float :=
  if requests.completed = 0 then 0.0
  else Float.ofNat requests.latencyMicros.toNat / Float.ofNat requests.completed / 1000.0

def uptimeSeconds (requests : Requests) (now : Instant) : Nat :=
  (now.since requests.started).wholeSeconds

end Requests
end Dashboard.Metrics
