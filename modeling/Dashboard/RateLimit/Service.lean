import Dashboard.Background.Sweepers
import Dashboard.Decimal.Style
import Dashboard.RateLimit.ClientKey
import Dashboard.RateLimit.Limiter
import Dashboard.Time.FloatSeconds

namespace Dashboard.RateLimit

/-- The number itself, unless it is infinite or no number. -/
def finite? (number : Float) : Option Float := if number.isFinite then some number else none

def Budget.ofFloats (capacity rate : Float) : Budget Float :=
  .ofSettings (finite? capacity) (finite? rate)

inductive RefillTime where
  | never
  | after (span : Duration)
  /-- Longer than any span that can be written down. -/
  | unbounded
deriving DecidableEq, Repr

def Budget.refillTime (budget : Budget Float) : RefillTime :=
  if budget.rate > 0 then
    match Duration.ofFloatSeconds? (budget.capacity / budget.rate) with
    | some span => .after span
    | none => .unbounded
  else .never

/-- A limiter with the settings it was asked for. -/
structure Service where
  capacity : Float
  rate : Float
  limiter : Limiter Float
  sweepers : Background.Sweepers

namespace Service

def start (capacity rate : Float) : Service :=
  ⟨capacity, rate, .start (.ofFloats capacity rate), .none⟩

/-- A budget of so many requests at once, refilled evenly over a minute. -/
def perMinute (requests : Float) : Service := start requests (ratePerMinute requests)

def denial (key : String) (cost : Float) : Log.Record :=
  ⟨.rateLimit, .debug, "Denied " ++ key ++ " (cost " ++ Decimal.Style.plain.text cost ++ ")"⟩

def allow (service : Service) (key : String) (cost : Float) (now : Instant) :
    Bool × Service × List Log.Record :=
  let (allowed, limiter) := service.limiter.allow key (finite? cost) now
  (allowed, { service with limiter := limiter }, if allowed then [] else [denial key cost])

/-- Charges `cost` to `key` a number of times and answers how often it was allowed. -/
def allowMany (service : Service) (key : String) (cost : Float) (now : Instant) :
    Nat → Nat × Service × List Log.Record
  | 0 => (0, service, [])
  | times + 1 =>
    let (count, service, records) := allowMany service key cost now times
    let (allowed, service, record) := service.allow key cost now
    (if allowed then count + 1 else count, service, records ++ record)

def allowRequest (service : Service) (origin : Origin) (now : Instant) :
    Bool × Service × List Log.Record :=
  service.allow origin.key 1.0 now

def sweep (service : Service) (now : Instant) : Nat × Service × List Log.Record :=
  let (removed, limiter) := service.limiter.sweep now
  (removed, { service with limiter := limiter },
    if removed = 0 then []
    else [⟨.rateLimit, .debug, "Swept " ++ toString removed ++ " idle buckets (" ++
      toString limiter.tracked ++ " tracked)"⟩])

def reset (service : Service) : Service × List Log.Record :=
  let (cleared, limiter) := service.limiter.reset
  ({ service with limiter := limiter },
    [⟨.rateLimit, .info, "Rate limiter reset (" ++ toString cleared ++ " buckets cleared)"⟩])

def spawnSweeper (service : Service) (period : Duration) (now : Instant) : Service :=
  { service with
    sweepers := service.sweepers.spawn (.start "ratelimit_sweeper" .rateLimit period now) }

def stopSweeper (service : Service) : Service × List Log.Record :=
  let (records, sweepers) := service.sweepers.stop
  ({ service with sweepers := sweepers }, records)

def sweepMany (service : Service) (now : Instant) : Nat → Service × List Log.Record
  | 0 => (service, [])
  | times + 1 =>
    let (service, records) := sweepMany service now times
    let (_, service, more) := service.sweep now
    (service, records ++ more)

def run (service : Service) (wheel : Background.Wheel) (now : Instant) :
    Service × List Log.Record :=
  let (ticks, sweepers) := service.sweepers.run wheel now
  { service with sweepers := sweepers }.sweepMany now ticks

def diagnostic (service : Service) : String :=
  "RateLimiter \x7b capacity: " ++ Decimal.Style.diagnostic.text service.capacity ++
    ", refill_rate: " ++ Decimal.Style.diagnostic.text service.rate ++ ", tracked_keys: " ++
    toString service.limiter.tracked ++ " \x7d"

end Service
end Dashboard.RateLimit
