import Dashboard.Association
import Dashboard.RateLimit.Bucket

/-! One token bucket per key. A bucket is made at the first request of its key, and a sweep
drops the buckets that have refilled completely, which bounds the map without giving anybody
a fresh budget. -/

namespace Dashboard.RateLimit

/-- Buckets by key and what has been decided so far, in counts without a bound: counters of 64 bits
would wrap only after `2 ^ 64` decisions, which no run comes to. -/
structure Limiter (α : Type) where
  budget : Budget α
  buckets : List (String × Bucket α)
  allowed : Nat
  denied : Nat
  swept : Nat
deriving Repr

variable {α : Type} [Add α] [Sub α] [Mul α] [LE α] [LT α] [DecidableLE α] [DecidableLT α]
  [OfNat α 0] [Elapsed α]

/-- The rate, in tokens a second, that makes up so many tokens evenly over a minute. -/
def ratePerMinute [Div α] [OfNat α 60] (tokens : α) : α := tokens / 60

namespace Limiter

def start (budget : Budget α) : Limiter α := ⟨budget, [], 0, 0, 0⟩

def tracked (limiter : Limiter α) : Nat := limiter.buckets.length

def bucket? (limiter : Limiter α) (key : String) : Option (Bucket α) := limiter.buckets.lookup key

def allow (limiter : Limiter α) (key : String) (cost : Option α) (now : Instant) :
    Bool × Limiter α :=
  let bucket := (limiter.bucket? key).getD (Bucket.full limiter.budget now)
  let (allowed, bucket) := bucket.allow limiter.budget cost now
  let limiter := { limiter with buckets := Association.put key bucket limiter.buckets }
  if allowed then (true, { limiter with allowed := limiter.allowed + 1 })
  else (false, { limiter with denied := limiter.denied + 1 })

/-- Drops the buckets that would be full at `now` and answers how many there were. -/
def sweep (limiter : Limiter α) (now : Instant) : Nat × Limiter α :=
  let kept := limiter.buckets.filter fun entry => !entry.2.isReplenished limiter.budget now
  let removed := limiter.buckets.length - kept.length
  (removed, { limiter with buckets := kept, swept := limiter.swept + removed })

/-- Forgets every bucket, also those in the middle of their budget, and answers how many there
were. -/
def reset (limiter : Limiter α) : Nat × Limiter α :=
  (limiter.buckets.length, { limiter with buckets := [] })

end Limiter
end Dashboard.RateLimit
