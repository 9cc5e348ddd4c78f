import Dashboard.Time.Duration

/-! Readings of a monotonic clock. Differences saturate at zero, because callers may
hold readings taken in either order; sums are refused beyond the last reading that
a 64-bit count of seconds can hold. -/

namespace Dashboard

/-- A reading of the monotonic clock, in nanoseconds after its epoch. -/
structure Instant where
  nanos : Int
deriving DecidableEq, Repr, Inhabited

namespace Instant

instance : LE Instant := ⟨fun first second => first.nanos ≤ second.nanos⟩
instance : LT Instant := ⟨fun first second => first.nanos < second.nanos⟩
instance (first second : Instant) : Decidable (first ≤ second) :=
  inferInstanceAs (Decidable (first.nanos ≤ second.nanos))
instance (first second : Instant) : Decidable (first < second) :=
  inferInstanceAs (Decidable (first.nanos < second.nanos))

theorem le_iff {first second : Instant} : first ≤ second ↔ first.nanos ≤ second.nanos := Iff.rfl

theorem lt_iff {first second : Instant} : first < second ↔ first.nanos < second.nanos := Iff.rfl

theorem le_refl (reading : Instant) : reading ≤ reading := Int.le_refl _

theorem le_trans {first second third : Instant} (before : first ≤ second) (after : second ≤ third) :
    first ≤ third := Int.le_trans before after

/-- The last reading a 64-bit count of seconds can hold. -/
def last : Instant := ⟨0x7fffffffffffffff * 1000000000 + 999999999⟩

/-- The time from `earlier` to `later`, zero when they are the other way round. -/
def since (later earlier : Instant) : Duration := ⟨(later.nanos - earlier.nanos).toNat⟩

/-- The reading `span` after `start`, with no bound. -/
def after (start : Instant) (span : Duration) : Instant := ⟨start.nanos + span.nanos⟩

def before (start : Instant) (span : Duration) : Instant := ⟨start.nanos - span.nanos⟩

/-- The reading `span` after `start`, unless no reading is that late. -/
def add? (start : Instant) (span : Duration) : Option Instant :=
  if start.after span ≤ last then some (start.after span) else none

def latest (first second : Instant) : Instant := if first ≤ second then second else first

theorem since_nanos (later earlier : Instant) :
    (later.since earlier).nanos = (later.nanos - earlier.nanos).toNat := rfl

theorem since_self (reading : Instant) : reading.since reading = Duration.zero := by
  simp [since, Duration.zero]

theorem since_of_le {later earlier : Instant} (order : later ≤ earlier) :
    later.since earlier = Duration.zero := by
  have := le_iff.mp order
  simp only [since, Duration.zero, Duration.mk.injEq]
  omega

theorem add?_eq_some {start finish : Instant} {span : Duration} :
    start.add? span = some finish ↔ finish = start.after span ∧ finish ≤ last := by
  unfold add?
  split <;> rename_i bound
  · constructor
    · intro equal; cases equal; exact ⟨rfl, bound⟩
    · rintro ⟨rfl, _⟩; rfl
  · constructor
    · intro equal; cases equal
    · rintro ⟨rfl, other⟩; exact absurd other bound

end Instant
end Dashboard
