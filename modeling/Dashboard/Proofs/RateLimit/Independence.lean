import Dashboard.Proofs.Association
import Dashboard.RateLimit.Limiter
import Mathlib.Algebra.Order.Ring.Rat
import Mathlib.Tactic.Linarith
import Mathlib.Tactic.Positivity

/-! A key is decided about by its own charges alone. A sweep drops buckets and later requests make
new ones for them, but a bucket that is dropped and the full one that takes its place have the same
tokens at every instant from the sweep on, and that is all a decision can tell apart. -/

namespace Dashboard.RateLimit

/-- A call to a limiter, with the reading of the clock it is made at. -/
inductive Call where
  | allow (key : String) (cost : Option Rat) (now : Instant)
  | sweep (now : Instant)
  | reset
deriving DecidableEq, Repr

namespace Call

/-- What a limiter reads from its clock during a call. -/
def reading? : Call → Option Instant
  | allow _ _ now | sweep now => some now
  | reset => none

/-- Whether a call charges the key or hands out new budgets to all. -/
def concerns (key : String) : Call → Bool
  | allow other _ _ => other = key
  | sweep _ => false
  | reset => true

/-- The clock does not go backwards from one call to the next. -/
def Ordered (calls : List Call) : Prop := (calls.filterMap reading?).Pairwise (· ≤ ·)

instance (calls : List Call) : Decidable (Ordered calls) :=
  inferInstanceAs (Decidable (List.Pairwise _ _))

/-- The readings of a run from a first call on. -/
theorem readings_cons {now final : Instant} {call : Call} {rest : List Call}
    (ordered : (now :: (call :: rest).filterMap reading? ++ [final]).Pairwise (· ≤ ·)) :
    (∀ reading, call.reading? = some reading → now ≤ reading) ∧
      (call.reading?.getD now :: rest.filterMap reading? ++ [final]).Pairwise (· ≤ ·) := by
  cases read : call.reading? with
  | none => simpa [List.filterMap_cons, read] using ordered
  | some reading =>
    simp only [List.filterMap_cons, read, List.cons_append] at ordered
    refine ⟨?_, ordered.tail⟩
    rintro _ ⟨rfl⟩
    exact List.rel_of_pairwise_cons ordered List.mem_cons_self

end Call

/-- In front of readings in order there is room for one more. -/
theorem exists_pairwise_cons {readings : List Instant} (ordered : readings.Pairwise (· ≤ ·)) :
    ∃ early : Instant, (early :: readings).Pairwise (· ≤ ·) := by
  cases readings with
  | nil => exact ⟨default, List.pairwise_singleton _ _⟩
  | cons first rest =>
    refine ⟨first, List.pairwise_cons.mpr ⟨fun reading present => ?_, ordered⟩⟩
    rcases List.mem_cons.mp present with rfl | present
    · exact Instant.le_refl reading
    · exact List.rel_of_pairwise_cons ordered present

namespace Limiter

def step (limiter : Limiter Rat) : Call → Limiter Rat
  | .allow key cost now => (limiter.allow key cost now).2
  | .sweep now => (limiter.sweep now).2
  | .reset => limiter.reset.2

def run (limiter : Limiter Rat) (calls : List Call) : Limiter Rat := calls.foldl step limiter

end Limiter

theorem sanitized_nonneg (setting : Option Rat) : 0 ≤ sanitized setting := by
  cases setting with
  | none => exact le_rfl
  | some value =>
    by_cases positive : 0 < value
    · simpa [sanitized, positive] using positive.le
    · simp [sanitized, positive]

theorem Budget.ofSettings_rate_nonneg (capacity rate : Option Rat) :
    0 ≤ (Budget.ofSettings capacity rate).rate := sanitized_nonneg rate

theorem seconds_nonneg (span : Duration) : (0 : Rat) ≤ Elapsed.seconds span := by
  change (0 : Rat) ≤ (span.nanos : Rat) / 1000000000
  positivity

theorem seconds_since_le {now later : Instant} (order : now ≤ later) (refilled : Instant) :
    (Elapsed.seconds (now.since refilled) : Rat) ≤ Elapsed.seconds (later.since refilled) := by
  have nanos : (now.since refilled).nanos ≤ (later.since refilled).nanos := by
    have := Instant.le_iff.mp order
    simp only [Instant.since_nanos]
    omega
  change ((now.since refilled).nanos : Rat) / 1000000000 ≤
    ((later.since refilled).nanos : Rat) / 1000000000
  gcongr

namespace Bucket

variable {budget : Budget Rat} {now later : Instant}

theorem tokensAt_eq_min (budget : Budget Rat) (bucket : Bucket Rat) (now : Instant) :
    bucket.tokensAt budget now =
      min (bucket.tokens + Elapsed.seconds (now.since bucket.refilled) * budget.rate)
        budget.capacity := by
  rw [min_def]
  rfl

theorem tokensAt_full (rate : 0 ≤ budget.rate) (now later : Instant) :
    (full budget now).tokensAt budget later = budget.capacity := by
  have gained : 0 ≤ Elapsed.seconds (later.since now) * budget.rate :=
    mul_nonneg (seconds_nonneg _) rate
  rw [tokensAt_eq_min]
  exact min_eq_right (le_add_of_nonneg_right gained)

/-- What a sweep drops could as well be full. -/
theorem tokensAt_of_isReplenished (rate : 0 ≤ budget.rate) {bucket : Bucket Rat}
    (replenished : bucket.isReplenished budget now = true) (order : now ≤ later) :
    bucket.tokensAt budget later = budget.capacity := by
  have reached : budget.capacity ≤
      bucket.tokens + Elapsed.seconds (now.since bucket.refilled) * budget.rate := by
    simpa [isReplenished] using replenished
  have gained := mul_le_mul_of_nonneg_right (seconds_since_le order bucket.refilled) rate
  rw [tokensAt_eq_min]
  exact min_eq_right (by linarith)

theorem refill_of_le {bucket : Bucket Rat} (refilled : bucket.refilled ≤ now) :
    bucket.refill budget now = ⟨bucket.tokensAt budget now, now⟩ := by
  simp [refill, Instant.latest, refilled]

/-- A charge sees nothing of a bucket but its tokens, and neither does anybody afterwards: a cost
that is no amount leaves the bucket alone, and any other has both buckets refilled first. -/
theorem allow_congr {left right : Bucket Rat} (cost : Option Rat) (left_refilled : left.refilled ≤ now)
    (right_refilled : right.refilled ≤ now)
    (tokens : ∀ later, now ≤ later → left.tokensAt budget later = right.tokensAt budget later) :
    (left.allow budget cost now).1 = (right.allow budget cost now).1 ∧
      ∀ later, now ≤ later →
        (left.allow budget cost now).2.tokensAt budget later =
          (right.allow budget cost now).2.tokensAt budget later := by
  have refills : left.refill budget now = right.refill budget now := by
    rw [refill_of_le left_refilled, refill_of_le right_refilled, tokens now (Instant.le_refl now)]
  cases cost with
  | none => exact ⟨rfl, tokens⟩
  | some cost =>
    by_cases negative : cost < 0
    · simpa [allow, negative] using tokens
    · simp [allow, negative, refills]

theorem allow_refilled {bucket : Bucket Rat} (cost : Option Rat) (refilled : bucket.refilled ≤ now) :
    (bucket.allow budget cost now).2.refilled ≤ now := by
  have settled : (bucket.refill budget now).refilled ≤ now := by
    rw [refill_of_le refilled]
    exact Instant.le_refl now
  cases cost with
  | none => exact refilled
  | some cost =>
    simp only [allow]
    split
    · exact refilled
    · split
      · exact settled
      · exact settled

end Bucket

namespace Limiter

/-- The tokens a key has at an instant. A key with no bucket is about to get a full one. -/
def level (limiter : Limiter Rat) (key : String) (now : Instant) : Rat :=
  match limiter.bucket? key with
  | some bucket => bucket.tokensAt limiter.budget now
  | none => limiter.budget.capacity

/-- What is true of a limiter at every reading of its clock from `now` on. -/
structure Sound (limiter : Limiter Rat) (now : Instant) : Prop where
  rate : 0 ≤ limiter.budget.rate
  distinct : Association.Distinct limiter.buckets
  refilled : ∀ key bucket, limiter.bucket? key = some bucket → bucket.refilled ≤ now

/-- The bucket a charge to the key is made to. -/
def bucketFor (limiter : Limiter Rat) (key : String) (now : Instant) : Bucket Rat :=
  (limiter.bucket? key).getD (Bucket.full limiter.budget now)

variable {limiter : Limiter Rat} {key : String} {now later : Instant}

theorem bucketFor_tokensAt (rate : 0 ≤ limiter.budget.rate) (key : String) (now later : Instant) :
    (limiter.bucketFor key now).tokensAt limiter.budget later = limiter.level key later := by
  cases found : limiter.bucket? key with
  | none => simp [bucketFor, level, found, Bucket.tokensAt_full rate]
  | some bucket => simp [bucketFor, level, found]

theorem bucketFor_refilled (sound : limiter.Sound now) (key : String) :
    (limiter.bucketFor key now).refilled ≤ now := by
  cases found : limiter.bucket? key with
  | none => simpa [bucketFor, found, Bucket.full] using Instant.le_refl now
  | some bucket => simpa [bucketFor, found] using sound.refilled key bucket found

theorem allow_fst (limiter : Limiter Rat) (key : String) (cost : Option Rat) (now : Instant) :
    (limiter.allow key cost now).1 = ((limiter.bucketFor key now).allow limiter.budget cost now).1 := by
  simp only [allow, bucketFor]
  split <;> simp [*]

theorem allow_budget (limiter : Limiter Rat) (key : String) (cost : Option Rat) (now : Instant) :
    (limiter.allow key cost now).2.budget = limiter.budget := by
  simp only [allow]
  split <;> rfl

theorem allow_buckets (limiter : Limiter Rat) (key : String) (cost : Option Rat) (now : Instant) :
    (limiter.allow key cost now).2.buckets =
      Association.put key ((limiter.bucketFor key now).allow limiter.budget cost now).2
        limiter.buckets := by
  simp only [allow]
  split <;> rfl

theorem allow_bucket? (limiter : Limiter Rat) (key other : String) (cost : Option Rat)
    (now : Instant) :
    (limiter.allow key cost now).2.bucket? other =
      if other = key then some ((limiter.bucketFor key now).allow limiter.budget cost now).2
      else limiter.bucket? other := by
  simp only [bucket?, allow_buckets, Association.lookup_put]

theorem sweep_bucket? (distinct : Association.Distinct limiter.buckets) (key : String)
    (now : Instant) :
    (limiter.sweep now).2.bucket? key =
      (limiter.bucket? key).filter fun bucket => !bucket.isReplenished limiter.budget now :=
  distinct.lookup_filter (fun bucket => !bucket.isReplenished limiter.budget now) key

theorem sweep_budget (limiter : Limiter Rat) (now : Instant) :
    (limiter.sweep now).2.budget = limiter.budget := rfl

theorem run_budget (limiter : Limiter Rat) (calls : List Call) :
    (limiter.run calls).budget = limiter.budget := by
  induction calls generalizing limiter with
  | nil => rfl
  | cons call rest inductionHypothesis =>
    refine (inductionHypothesis (limiter.step call)).trans ?_
    cases call with
    | allow key cost now => exact allow_budget limiter key cost now
    | sweep now => rfl
    | reset => rfl

theorem level_allow_ne (limiter : Limiter Rat) {key other : String} (different : key ≠ other)
    (cost : Option Rat) (now later : Instant) :
    (limiter.allow other cost now).2.level key later = limiter.level key later := by
  simp only [level, allow_bucket?, different, if_false, allow_budget]

theorem level_sweep (sound : limiter.Sound now) (key : String) (order : now ≤ later) :
    (limiter.sweep now).2.level key later = limiter.level key later := by
  cases found : limiter.bucket? key with
  | none => simp [level, sweep_bucket? sound.distinct, sweep_budget, found]
  | some bucket =>
    by_cases replenished : bucket.isReplenished limiter.budget now = true
    · have full := Bucket.tokensAt_of_isReplenished sound.rate replenished order
      simp only [level, sweep_bucket? sound.distinct, sweep_budget, found]
      rw [Option.filter_some_neg (by simp [replenished]), full]
    · simp only [level, sweep_bucket? sound.distinct, sweep_budget, found]
      rw [Option.filter_some_pos (by simp [replenished])]

theorem level_allow_self (limiter : Limiter Rat) (key : String) (cost : Option Rat)
    (now later : Instant) :
    (limiter.allow key cost now).2.level key later =
      ((limiter.bucketFor key now).allow limiter.budget cost now).2.tokensAt limiter.budget later := by
  simp only [level, allow_bucket?, if_true, allow_budget]

theorem level_of_empty (limiter : Limiter Rat) (empty : limiter.buckets = []) (key : String)
    (now : Instant) : limiter.level key now = limiter.budget.capacity := by
  simp [level, bucket?, empty]

namespace Sound

theorem mono (sound : limiter.Sound now) (order : now ≤ later) : limiter.Sound later where
  rate := sound.rate
  distinct := sound.distinct
  refilled key bucket found := Instant.le_trans (sound.refilled key bucket found) order

theorem of_empty (rate : 0 ≤ limiter.budget.rate) (empty : limiter.buckets = []) (now : Instant) :
    limiter.Sound now where
  rate := rate
  distinct := by simp [empty, Association.Distinct]
  refilled key bucket found := by simp [bucket?, empty] at found

theorem allow (sound : limiter.Sound now) (key : String) (cost : Option Rat) :
    (limiter.allow key cost now).2.Sound now where
  rate := by simpa only [allow_budget] using sound.rate
  distinct := by simpa only [allow_buckets] using sound.distinct.put key _
  refilled other bucket found := by
    rw [allow_bucket?] at found
    split at found
    · cases found
      exact Bucket.allow_refilled cost (bucketFor_refilled sound key)
    · exact sound.refilled other bucket found

theorem sweep (sound : limiter.Sound now) : (limiter.sweep now).2.Sound now where
  rate := sound.rate
  distinct := sound.distinct.filter _
  refilled key bucket found := by
    rw [sweep_bucket? sound.distinct] at found
    exact sound.refilled key bucket (Option.eq_some_of_filter_eq_some found)

end Sound

/-- Two limiters that a key cannot tell apart from `now` on. -/
structure Alike (key : String) (now : Instant) (left right : Limiter Rat) : Prop where
  left_sound : left.Sound now
  right_sound : right.Sound now
  budget : left.budget = right.budget
  level : ∀ later, now ≤ later → left.level key later = right.level key later

namespace Alike

variable {left right : Limiter Rat}

theorem mono (alike : Alike key now left right) (order : now ≤ later) : Alike key later left right where
  left_sound := alike.left_sound.mono order
  right_sound := alike.right_sound.mono order
  budget := alike.budget
  level last order' := alike.level last (Instant.le_trans order order')

/-- A call that does not concern the key, on one side alone. -/
theorem step_left (alike : Alike key now left right) {call : Call} (other : call.concerns key = false)
    (order : ∀ reading, call.reading? = some reading → now ≤ reading) :
    Alike key (call.reading?.getD now) (left.step call) right := by
  cases call with
  | allow owner cost reading =>
    have later := alike.mono (order reading rfl)
    have different : key ≠ owner := by
      rintro rfl
      simp [Call.concerns] at other
    refine ⟨later.left_sound.allow owner cost, later.right_sound, ?_, fun last order' => ?_⟩
    · rw [← later.budget]
      exact allow_budget left owner cost reading
    · exact (level_allow_ne left different cost reading last).trans (later.level last order')
  | sweep reading =>
    have later := alike.mono (order reading rfl)
    refine ⟨later.left_sound.sweep, later.right_sound, later.budget, fun last order' => ?_⟩
    exact (level_sweep later.left_sound key order').trans (later.level last order')
  | reset => simp [Call.concerns] at other

theorem allow (alike : Alike key now left right) (cost : Option Rat) :
    (left.allow key cost now).1 = (right.allow key cost now).1 ∧
      Alike key now (left.allow key cost now).2 (right.allow key cost now).2 := by
  have buckets : ∀ later, now ≤ later →
      (left.bucketFor key now).tokensAt left.budget later =
        (right.bucketFor key now).tokensAt left.budget later := by
    intro later order
    rw [bucketFor_tokensAt alike.left_sound.rate, alike.budget,
      bucketFor_tokensAt alike.right_sound.rate]
    exact alike.level later order
  have charged := Bucket.allow_congr cost (bucketFor_refilled alike.left_sound key)
    (bucketFor_refilled alike.right_sound key) buckets
  refine ⟨?_, alike.left_sound.allow key cost, alike.right_sound.allow key cost, ?_, ?_⟩
  · rw [allow_fst, allow_fst, ← alike.budget]
    exact charged.1
  · rw [allow_budget, allow_budget]
    exact alike.budget
  · intro later order
    rw [level_allow_self, level_allow_self, ← alike.budget]
    exact charged.2 later order

theorem of_empty (left right : Limiter Rat) (budget : left.budget = right.budget)
    (rate : 0 ≤ left.budget.rate) (left_empty : left.buckets = []) (right_empty : right.buckets = [])
    (key : String) (now : Instant) : Alike key now left right where
  left_sound := .of_empty rate left_empty now
  right_sound := .of_empty (budget ▸ rate) right_empty now
  budget := budget
  level later _ := by
    rw [level_of_empty left left_empty, level_of_empty right right_empty, budget]

/-- A call that concerns the key, on both sides. -/
theorem step_both (alike : Alike key now left right) {call : Call} (own : call.concerns key = true)
    (order : ∀ reading, call.reading? = some reading → now ≤ reading) :
    Alike key (call.reading?.getD now) (left.step call) (right.step call) := by
  cases call with
  | allow owner cost reading =>
    obtain rfl : owner = key := by simpa [Call.concerns] using own
    exact ((alike.mono (order reading rfl)).allow cost).2
  | sweep reading => simp [Call.concerns] at own
  | reset =>
    exact of_empty left.reset.2 right.reset.2 alike.budget alike.left_sound.rate rfl rfl key now

/-- Along a whole run, what does not concern the key can be left out on one side. -/
theorem run (alike : Alike key now left right) {calls : List Call} {final : Instant}
    (ordered : (now :: calls.filterMap Call.reading? ++ [final]).Pairwise (· ≤ ·)) :
    Alike key final (left.run calls) (right.run (calls.filter (Call.concerns key))) := by
  induction calls generalizing now left right with
  | nil => exact alike.mono (by simpa using ordered)
  | cons call rest inductionHypothesis =>
    obtain ⟨order, orderedRest⟩ := Call.readings_cons ordered
    by_cases own : call.concerns key = true
    · rw [List.filter_cons_of_pos own]
      exact inductionHypothesis (alike.step_both own order) orderedRest
    · rw [List.filter_cons_of_neg own]
      exact inductionHypothesis (alike.step_left (by simpa using own) order) orderedRest

end Alike

/-- The decision of two limiters without buckets after calls that are the same for the key. -/
theorem decision_of_empty (left right : Limiter Rat) (budget : left.budget = right.budget)
    (rate : 0 ≤ left.budget.rate) (left_empty : left.buckets = []) (right_empty : right.buckets = [])
    {calls : List Call} {cost : Option Rat}
    (ordered : Call.Ordered (calls ++ [.allow key cost now])) :
    ((left.run calls).allow key cost now).1 =
      ((right.run (calls.filter (Call.concerns key))).allow key cost now).1 := by
  have readings : (calls.filterMap Call.reading? ++ [now]).Pairwise (· ≤ ·) := by
    simpa [Call.Ordered, Call.reading?] using ordered
  -- with no bucket to refill, any reading before the first call will do to begin with
  obtain ⟨early, before⟩ := exists_pairwise_cons readings
  have alike := Alike.of_empty left right budget rate left_empty right_empty key early
  exact ((alike.run before).allow cost).1

/-- Sweeps and other clients are invisible to a client: each decision about its key is the one made
when nothing else happens than its own charges and the resets. It is also the one a new limiter makes
after the charges to the key since a reset, so that nothing before the last reset matters. -/
theorem decision_of_own_calls (capacity rate : Option Rat) (key : String) (cost : Option Rat)
    (now : Instant) (calls : List Call) (ordered : Call.Ordered (calls ++ [.allow key cost now])) :
    (((start (.ofSettings capacity rate)).run calls).allow key cost now).1 =
        (((start (.ofSettings capacity rate)).run (calls.filter (Call.concerns key))).allow
          key cost now).1 ∧
      ∀ early late, calls = early ++ .reset :: late →
        (((start (.ofSettings capacity rate)).run calls).allow key cost now).1 =
          (((start (.ofSettings capacity rate)).run (late.filter (Call.concerns key))).allow
            key cost now).1 := by
  have nonneg := Budget.ofSettings_rate_nonneg capacity rate
  refine ⟨decision_of_empty _ _ rfl nonneg rfl rfl ordered, ?_⟩
  rintro early late rfl
  have orderedLate : Call.Ordered (late ++ [.allow key cost now]) := by
    refine ordered.sublist (List.Sublist.filterMap _ (List.Sublist.append_right ?_ _))
    exact (List.sublist_cons_self _ late).trans (List.sublist_append_right early _)
  have budget := run_budget (start (.ofSettings capacity rate)) early
  have split : (start (.ofSettings capacity rate)).run (early ++ .reset :: late) =
      (((start (.ofSettings capacity rate)).run early).reset.2).run late := by
    simp [run, step]
  rw [split]
  exact decision_of_empty ((start (.ofSettings capacity rate)).run early).reset.2 _ budget
    (budget.symm ▸ nonneg) rfl rfl orderedLate

/-- A client that had its tokens back at the sweep, and has spent them since, is turned down with the
sweep as without it. -/
theorem decision_of_own_calls_swept :
    Call.Ordered ([.allow "busy" (some 2) ⟨0⟩, .allow "idle" none ⟨0⟩, .sweep ⟨2000000000⟩,
        .allow "busy" (some 3) ⟨2500000000⟩] ++ [.allow "busy" (some 1) ⟨3000000000⟩]) ∧
      (((start (.ofSettings (some 3) (some 1))).run [.allow "busy" (some 2) ⟨0⟩,
        .allow "idle" none ⟨0⟩, .sweep ⟨2000000000⟩, .allow "busy" (some 3) ⟨2500000000⟩]).allow
          "busy" (some 1) ⟨3000000000⟩).1 = false ∧
      (((start (.ofSettings (some 3) (some 1))).run [.allow "busy" (some 2) ⟨0⟩,
        .allow "busy" (some 3) ⟨2500000000⟩]).allow "busy" (some 1) ⟨3000000000⟩).1 = false := by
  have ordered : Call.Ordered ([.allow "busy" (some 2) ⟨0⟩, .allow "idle" none ⟨0⟩,
      .sweep ⟨2000000000⟩, .allow "busy" (some 3) ⟨2500000000⟩] ++
      [.allow "busy" (some 1) ⟨3000000000⟩]) := by decide
  have alone := (decision_of_own_calls (some 3) (some 1) "busy" (some 1) _ _ ordered).1
  refine ⟨ordered, by decide +kernel, ?_⟩
  exact alone.symm.trans (by decide +kernel)

end Limiter
end Dashboard.RateLimit
