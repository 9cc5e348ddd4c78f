import Dashboard.Proofs.RateLimit.Window
import Mathlib.Algebra.Order.Field.Basic
import Mathlib.Tactic.FieldSimp

namespace Dashboard.RateLimit

/-- A budget of so many requests at once, refilled evenly over a minute. -/
def Budget.perMinute (requests : Rat) : Budget Rat :=
  .ofSettings (some requests) (some (ratePerMinute requests))

namespace Budget

theorem perMinute_capacity {requests : Rat} (positive : 0 < requests) :
    (perMinute requests).capacity = requests := by
  simp [perMinute, ofSettings, sanitized, positive]

theorem perMinute_rate {requests : Rat} (positive : 0 < requests) :
    (perMinute requests).rate = requests / 60 := by
  have rate : 0 < requests / 60 := by positivity
  simp [perMinute, ofSettings, sanitized, ratePerMinute, rate]

/-- A budget of less than a request is not rounded up to one. -/
theorem perMinute_capacity_lt_one {requests : Rat} (fraction : requests < 1) :
    (perMinute requests).capacity < 1 := by
  by_cases positive : 0 < requests
  · rwa [perMinute_capacity positive]
  · simp [perMinute, ofSettings, sanitized, positive]

/-- Over the share of a minute that falls to each request, one token flows in. -/
theorem one_le_seconds_mul_rate {requests : Rat} (positive : 0 < requests) {span : Duration}
    (long : 60 / requests ≤ Elapsed.seconds span) :
    1 ≤ Elapsed.seconds span * (perMinute requests).rate := by
  have rate : 0 ≤ requests / 60 := by positivity
  calc (1 : Rat)
      = 60 / requests * (requests / 60) := by field_simp
    _ ≤ Elapsed.seconds span * (requests / 60) := mul_le_mul_of_nonneg_right long rate
    _ = Elapsed.seconds span * (perMinute requests).rate := by rw [perMinute_rate positive]

end Budget

namespace Bucket

theorem allow_one_fst (budget : Budget Rat) (bucket : Bucket Rat) (now : Instant) :
    (bucket.allow budget (some 1) now).1 = decide (1 ≤ bucket.tokensAt budget now) := by
  have amount : ¬ (1 : Rat) < 0 := by norm_num
  by_cases enough : 1 ≤ bucket.tokensAt budget now
  · simp [allow, amount, refill, enough]
  · simp [allow, amount, refill, enough]

/-- A charge leaves a bucket's reading as it was, or puts its own there. -/
theorem allow_refilled_cases (budget : Budget Rat) (bucket : Bucket Rat) (cost : Option Rat)
    (now : Instant) :
    (bucket.allow budget cost now).2.refilled = bucket.refilled ∨
      (bucket.allow budget cost now).2.refilled = now := by
  rcases bucket.step_cases budget ⟨cost, now⟩ with ⟨-, -, stays⟩ | ⟨-, -, -, steps⟩
  · left
    exact congrArg Bucket.refilled stays
  · have refilled := congrArg Bucket.refilled steps
    by_cases order : bucket.refilled ≤ now
    · right
      simpa [step, Instant.latest, order] using refilled
    · left
      simpa [step, Instant.latest, order] using refilled

end Bucket

namespace Limiter

/-- What is true of a limiter after some calls: its buckets hold no less than nothing and no more than
their capacity, and each was last refilled at the reading of a charge to its key. -/
structure Traced (limiter : Limiter Rat) (calls : List Call) : Prop where
  rate : 0 ≤ limiter.budget.rate
  capacity : 0 ≤ limiter.budget.capacity
  distinct : Association.Distinct limiter.buckets
  tokens : ∀ key bucket, limiter.bucket? key = some bucket →
    0 ≤ bucket.tokens ∧ bucket.tokens ≤ limiter.budget.capacity
  refilled : ∀ key bucket, limiter.bucket? key = some bucket →
    ∃ cost, Call.allow key cost bucket.refilled ∈ calls

namespace Traced

variable {limiter : Limiter Rat} {calls : List Call}

theorem start (budget : Budget Rat) (rate : 0 ≤ budget.rate) (capacity : 0 ≤ budget.capacity) :
    (start budget).Traced [] where
  rate := rate
  capacity := capacity
  distinct := by simp [Limiter.start, Association.Distinct]
  tokens key bucket found := by simp [Limiter.start, bucket?] at found
  refilled key bucket found := by simp [Limiter.start, bucket?] at found

theorem bucketFor_tokens (traced : limiter.Traced calls) (key : String) (now : Instant) :
    0 ≤ (limiter.bucketFor key now).tokens ∧
      (limiter.bucketFor key now).tokens ≤ limiter.budget.capacity := by
  cases found : limiter.bucket? key with
  | none =>
    rw [bucketFor, found]
    exact ⟨traced.capacity, le_rfl⟩
  | some bucket =>
    rw [bucketFor, found]
    exact traced.tokens key bucket found

/-- The bucket a charge goes to is new, or was refilled at the reading of an earlier one. -/
theorem bucketFor_refilled (traced : limiter.Traced calls) (key : String) (now : Instant) :
    limiter.bucketFor key now = Bucket.full limiter.budget now ∨
      ∃ cost, Call.allow key cost (limiter.bucketFor key now).refilled ∈ calls := by
  cases found : limiter.bucket? key with
  | none =>
    left
    rw [bucketFor, found]
    rfl
  | some bucket =>
    right
    rw [bucketFor, found]
    exact traced.refilled key bucket found

theorem allow (traced : limiter.Traced calls) (key : String) (cost : Option Rat) (now : Instant) :
    (limiter.allow key cost now).2.Traced (calls ++ [.allow key cost now]) where
  rate := by simpa only [allow_budget] using traced.rate
  capacity := by simpa only [allow_budget] using traced.capacity
  distinct := by simpa only [allow_buckets] using traced.distinct.put key _
  tokens other bucket found := by
    rw [allow_bucket?] at found
    rw [allow_budget]
    split at found
    · cases found
      exact Bucket.step_tokens traced.rate (traced.bucketFor_tokens key now) ⟨cost, now⟩
    · exact traced.tokens other bucket found
  refilled other bucket found := by
    rw [allow_bucket?] at found
    split at found
    · rename_i same
      subst same
      cases found
      have charged := (limiter.bucketFor other now).allow_refilled_cases limiter.budget cost now
      rcases charged with kept | fresh
      · rcases traced.bucketFor_refilled other now with new | ⟨earlier, charge⟩
        · refine ⟨cost, List.mem_append_right calls (List.mem_singleton.mpr ?_)⟩
          rw [kept, new]
          rfl
        · refine ⟨earlier, List.mem_append_left _ ?_⟩
          rw [kept]
          exact charge
      · refine ⟨cost, List.mem_append_right calls (List.mem_singleton.mpr ?_)⟩
        rw [fresh]
    · obtain ⟨earlier, charge⟩ := traced.refilled other bucket found
      exact ⟨earlier, List.mem_append_left _ charge⟩

theorem sweep (traced : limiter.Traced calls) (now : Instant) :
    (limiter.sweep now).2.Traced (calls ++ [.sweep now]) where
  rate := traced.rate
  capacity := traced.capacity
  distinct := traced.distinct.filter _
  tokens key bucket found := by
    rw [sweep_bucket? traced.distinct] at found
    exact traced.tokens key bucket (Option.eq_some_of_filter_eq_some found)
  refilled key bucket found := by
    rw [sweep_bucket? traced.distinct] at found
    obtain ⟨cost, charge⟩ :=
      traced.refilled key bucket (Option.eq_some_of_filter_eq_some found)
    exact ⟨cost, List.mem_append_left _ charge⟩

theorem reset (traced : limiter.Traced calls) : limiter.reset.2.Traced (calls ++ [.reset]) where
  rate := traced.rate
  capacity := traced.capacity
  distinct := by simp [Limiter.reset, Association.Distinct]
  tokens key bucket found := by simp [Limiter.reset, bucket?] at found
  refilled key bucket found := by simp [Limiter.reset, bucket?] at found

theorem step (traced : limiter.Traced calls) (call : Call) :
    (limiter.step call).Traced (calls ++ [call]) := by
  cases call with
  | allow key cost now => exact traced.allow key cost now
  | sweep now => exact traced.sweep now
  | reset => exact traced.reset

theorem run (traced : limiter.Traced calls) (more : List Call) :
    (limiter.run more).Traced (calls ++ more) := by
  induction more generalizing limiter calls with
  | nil => simpa [Limiter.run] using traced
  | cons call rest inductionHypothesis =>
    have later := inductionHypothesis (traced.step call)
    rw [List.append_assoc] at later
    exact later

/-- A token that flows in over a pause pays for the next request, where a bucket can hold one. -/
theorem allow_after_pause (traced : limiter.Traced calls) {key : String} {now : Instant}
    (room : 1 ≤ limiter.budget.capacity)
    (pause : ∀ cost reading, Call.allow key cost reading ∈ calls →
      1 ≤ Elapsed.seconds (now.since reading) * limiter.budget.rate) :
    (limiter.allow key (some 1) now).1 = true := by
  rw [allow_fst, Bucket.allow_one_fst, decide_eq_true_eq, Bucket.tokensAt_eq_min]
  apply le_min _ room
  rcases traced.bucketFor_refilled key now with new | ⟨cost, charge⟩
  · have gained := mul_nonneg (seconds_nonneg (now.since now)) traced.rate
    rw [new]
    exact le_add_of_le_of_nonneg room gained
  · have left := (traced.bucketFor_tokens key now).1
    exact le_add_of_nonneg_of_le left (pause cost _ charge)

end Traced

/-- A bucket that cannot hold a token lets no request pass. -/
theorem not_allow_of_capacity {limiter : Limiter Rat} (small : limiter.budget.capacity < 1)
    (key : String) (now : Instant) : (limiter.allow key (some 1) now).1 = false := by
  have capped := Bucket.tokensAt_le_capacity limiter.budget (limiter.bucketFor key now) now
  rw [allow_fst, Bucket.allow_one_fst, decide_eq_false_iff_not, not_le]
  exact capped.trans_lt small

/-- Nobody is locked out by a budget of a request a minute or more: after any calls, whatever the order
of their readings, a key that was not charged for a request's share of the minute has the next request
admitted. A budget of less than one request admits none, however long its key waits. -/
theorem request_after_pause (requests : Rat) (calls : List Call) (key : String) (now : Instant) :
    let limiter := (start (.perMinute requests)).run calls
    (1 ≤ requests →
        (∀ cost reading, Call.allow key cost reading ∈ calls →
          60 / requests ≤ Elapsed.seconds (now.since reading)) →
        (limiter.allow key (some 1) now).1 = true) ∧
      (requests < 1 → (limiter.allow key (some 1) now).1 = false) := by
  intro limiter
  have budget : limiter.budget = .perMinute requests := run_budget _ calls
  constructor
  · intro whole pause
    have positive : 0 < requests := zero_lt_one.trans_le whole
    have fresh := Traced.start (.perMinute requests) (sanitized_nonneg _) (sanitized_nonneg _)
    have traced : limiter.Traced calls := fresh.run calls
    have room : 1 ≤ limiter.budget.capacity := by
      rw [budget, Budget.perMinute_capacity positive]
      exact whole
    apply traced.allow_after_pause room
    intro cost reading charge
    rw [budget]
    exact Budget.one_le_seconds_mul_rate positive (pause cost reading charge)
  · intro fraction
    apply not_allow_of_capacity
    rw [budget]
    exact Budget.perMinute_capacity_lt_one fraction

/-- Two requests a minute: both are used up at once, and half a minute later there is a third. -/
theorem request_after_pause_of_two :
    (((start (.perMinute 2)).run [.allow "a" (some 1) ⟨0⟩, .allow "a" (some 1) ⟨0⟩,
      .allow "b" (some 2) ⟨5000000000⟩, .sweep ⟨10000000000⟩]).allow "a" (some 1) ⟨30000000000⟩).1 =
        true ∧
      ((start (.perMinute (1 / 2))).allow "a" (some 1) ⟨30000000000⟩).1 = false := by
  constructor
  · apply (request_after_pause 2 _ "a" ⟨30000000000⟩).1
    · decide +kernel
    · intro cost reading charge
      obtain ⟨-, rfl⟩ : cost = some 1 ∧ reading = ⟨0⟩ := by simpa using charge
      decide +kernel
  · exact (request_after_pause (1 / 2) [] "a" ⟨30000000000⟩).2 (by decide +kernel)

/-- With half a request a minute, two minutes are no pause that is long enough. -/
theorem half_request_denied :
    ¬ ∀ (requests : Rat) (calls : List Call) (key : String) (now : Instant), 0 < requests →
      Call.Ordered (calls ++ [.allow key (some 1) now]) →
      (∀ cost reading, Call.allow key cost reading ∈ calls →
        60 / requests ≤ Elapsed.seconds (now.since reading)) →
      (((start (.perMinute requests)).run calls).allow key (some 1) now).1 = true := by
  intro admits
  have admitted := admits (1 / 2) [.allow "10.0.0.1:9" (some 1) ⟨0⟩] "10.0.0.1:9" ⟨120000000000⟩
    (by decide +kernel) (by decide) (by
      intro cost reading charge
      obtain ⟨-, rfl⟩ : cost = some 1 ∧ reading = ⟨0⟩ := by simpa using charge
      decide +kernel)
  exact absurd admitted (by decide +kernel)

end Limiter
end Dashboard.RateLimit
