import Dashboard.Time.Instant

/-! A token bucket that refills continuously. It is written over any arithmetic with an order
and a reading of time spans as seconds: the program counts tokens in floats, and laws about
budgets are stated over exact rationals. -/

namespace Dashboard.RateLimit

/-- Time spans as numbers of seconds. -/
class Elapsed (α : Type) where
  seconds : Duration → α

instance : Elapsed Float := ⟨Duration.seconds⟩

instance : Elapsed Rat := ⟨fun span => (span.nanos : Rat) / 1000000000⟩

variable {α : Type} [Add α] [Sub α] [Mul α] [LE α] [LT α] [DecidableLE α] [DecidableLT α]
  [OfNat α 0] [Elapsed α]

/-- Capacity and refill rate of a bucket, neither below zero. -/
structure Budget (α : Type) where
  capacity : α
  rate : α
deriving Repr

/-- A setting that is no finite positive number counts as zero. -/
def sanitized (setting : Option α) : α :=
  match setting with
  | some value => if 0 < value then value else 0
  | none => 0

/-- The budget for the given settings, where `none` stands for what is not a finite number. -/
def Budget.ofSettings (capacity rate : Option α) : Budget α := ⟨sanitized capacity, sanitized rate⟩

/-- The tokens of a bucket as they were at its last refill. -/
structure Bucket (α : Type) where
  tokens : α
  refilled : Instant
deriving Repr

namespace Bucket

/-- A new bucket is full. -/
def full (budget : Budget α) (now : Instant) : Bucket α := ⟨budget.capacity, now⟩

/-- The tokens after a refill at `now`; a reading from before the last refill adds nothing. -/
def tokensAt (budget : Budget α) (bucket : Bucket α) (now : Instant) : α :=
  let tokens := bucket.tokens + Elapsed.seconds (now.since bucket.refilled) * budget.rate
  if tokens ≤ budget.capacity then tokens else budget.capacity

def refill (budget : Budget α) (bucket : Bucket α) (now : Instant) : Bucket α :=
  ⟨bucket.tokensAt budget now, bucket.refilled.latest now⟩

/-- Takes `cost` tokens if there are as many. A cost that is no finite number, or is below zero,
is denied and leaves the bucket as it was; any other denial leaves it refilled. -/
def allow (budget : Budget α) (bucket : Bucket α) (cost : Option α) (now : Instant) :
    Bool × Bucket α :=
  match cost with
  | none => (false, bucket)
  | some cost =>
    if cost < 0 then (false, bucket)
    else
      let bucket := bucket.refill budget now
      if cost ≤ bucket.tokens then (true, { bucket with tokens := bucket.tokens - cost })
      else (false, bucket)

def available (budget : Budget α) (bucket : Bucket α) (now : Instant) : α × Bucket α :=
  let bucket := bucket.refill budget now
  (bucket.tokens, bucket)

/-- Whether the bucket would be full at `now`, so that a new one could stand for it. -/
def isReplenished (budget : Budget α) (bucket : Bucket α) (now : Instant) : Bool :=
  budget.capacity ≤ bucket.tokens + Elapsed.seconds (now.since bucket.refilled) * budget.rate

end Bucket
end Dashboard.RateLimit
