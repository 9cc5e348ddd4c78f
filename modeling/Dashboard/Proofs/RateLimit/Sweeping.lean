import Dashboard.Proofs.RateLimit.Thinning
import Mathlib.Algebra.Order.Field.Basic
import Mathlib.Data.List.Dedup

/-! A sweep bounds the number of buckets. It drops the full ones, and a bucket that is short of its
capacity owes that to a charge from less than one refill time ago: the latest charge that took
something left it no emptier than empty, and it has refilled evenly since. -/

namespace Dashboard.RateLimit

/-- A charge that was allowed and took something. -/
structure Spending where
  key : String
  now : Instant
deriving DecidableEq, Repr

namespace Limiter

/-- What a call takes, if it takes anything. -/
def spending? (limiter : Limiter Rat) : Call → Option Spending
  | .allow key cost now =>
    if (limiter.allow key cost now).1 ∧ cost.any (0 < ·) then some ⟨key, now⟩ else none
  | .sweep _ | .reset => none

/-- The charges of a run that were allowed and took something. -/
def spendings (limiter : Limiter Rat) : List Call → List Spending
  | [] => []
  | call :: rest => (limiter.spending? call).toList ++ (limiter.step call).spendings rest

end Limiter

namespace Bucket

variable {budget : Budget Rat} {bucket : Bucket Rat} {key : String} {spent : List Spending}
  {now : Instant}

/-- A bucket is full, or has refilled since a charge to its key. -/
def Accounted (budget : Budget Rat) (key : String) (spent : List Spending) (bucket : Bucket Rat) :
    Prop :=
  bucket.tokens = budget.capacity ∨
    ∃ spending ∈ spent, spending.key = key ∧ spending.now ≤ bucket.refilled ∧
      Elapsed.seconds (bucket.refilled.since spending.now) * budget.rate ≤ bucket.tokens

namespace Accounted

theorem mono (accounted : bucket.Accounted budget key spent) (more : List Spending) :
    bucket.Accounted budget key (spent ++ more) := by
  rcases accounted with full | ⟨spending, present, owner, before, refilled⟩
  · exact Or.inl full
  · exact Or.inr ⟨spending, List.mem_append_left more present, owner, before, refilled⟩

theorem refill (accounted : bucket.Accounted budget key spent) (rate : 0 ≤ budget.rate)
    (order : bucket.refilled ≤ now) : (bucket.refill budget now).Accounted budget key spent := by
  have gained : 0 ≤ Elapsed.seconds (now.since bucket.refilled) * budget.rate :=
    mul_nonneg (seconds_nonneg _) rate
  have tokens := tokensAt_eq_min budget bucket now
  rw [refill_of_le order]
  by_cases reached : budget.capacity ≤
      bucket.tokens + Elapsed.seconds (now.since bucket.refilled) * budget.rate
  · left
    rw [tokens, min_eq_right reached]
  · rcases accounted with full | ⟨spending, present, owner, before, refilled⟩
    · exact absurd (full.ge.trans (le_add_of_nonneg_right gained)) reached
    · right
      refine ⟨spending, present, owner, Instant.le_trans before order, ?_⟩
      rw [tokens, min_eq_left (not_le.mp reached).le, seconds_since_add before order, add_mul]
      exact add_le_add_left refilled _

/-- A charge that takes nothing leaves a bucket's account as it was, and any other opens a new one. -/
theorem step (accounted : bucket.Accounted budget key spent) (rate : 0 ≤ budget.rate)
    (charge : Charge) (order : bucket.refilled ≤ charge.now) {more : List Spending}
    (noted : 0 < bucket.granted budget charge → ⟨key, charge.now⟩ ∈ more) :
    (bucket.step budget charge).Accounted budget key (spent ++ more) := by
  rcases bucket.step_cases budget charge with ⟨-, -, stays⟩ | ⟨-, nonneg, afforded, steps⟩
  · rw [stays]
    exact accounted.mono more
  · rw [latest_of_le order] at steps
    rw [steps]
    by_cases nothing : bucket.granted budget charge = 0
    · have refilled := (accounted.refill rate order).mono more
      rw [refill_of_le order] at refilled
      rwa [nothing, sub_zero]
    · right
      refine ⟨⟨key, charge.now⟩, List.mem_append_right spent ?_, rfl, Instant.le_refl _, ?_⟩
      · exact noted (lt_of_le_of_ne nonneg (Ne.symm nothing))
      · rw [Instant.since_self, seconds_zero, zero_mul]
        exact sub_nonneg.mpr (afforded.resolve_left nothing)

/-- A bucket that is not full when it is refilled was charged less than a refill time ago. -/
theorem recent (accounted : bucket.Accounted budget key spent) (rate : 0 < budget.rate)
    (order : bucket.refilled ≤ now) (short : bucket.tokensAt budget now ≠ budget.capacity) :
    ∃ spending ∈ spent, spending.key = key ∧
      Elapsed.seconds (now.since spending.now) < budget.capacity / budget.rate := by
  have below := lt_of_le_of_ne (tokensAt_le_capacity budget bucket now) short
  have refilled := accounted.refill rate.le order
  rw [refill_of_le order] at refilled
  rcases refilled with full | ⟨spending, present, owner, -, refilled⟩
  · exact absurd full short
  · exact ⟨spending, present, owner, (lt_div_iff₀ rate).mpr (refilled.trans_lt below)⟩

end Accounted

theorem granted_pos_iff (budget : Budget Rat) (bucket : Bucket Rat) (cost : Option Rat)
    (now : Instant) :
    0 < bucket.granted budget ⟨cost, now⟩ ↔
      (bucket.allow budget cost now).1 = true ∧ cost.any (0 < ·) = true := by
  cases cost with
  | none => simp [granted, allow]
  | some cost =>
    by_cases allowed : (bucket.allow budget (some cost) now).1 = true
    · simp [granted, allowed]
    · simp [granted, allowed]

end Bucket

namespace Limiter

variable {limiter : Limiter Rat} {spent : List Spending} {now : Instant}

/-- What is true of a limiter that has been charged with `spent`, at every reading from `now` on. -/
structure Accounted (limiter : Limiter Rat) (spent : List Spending) (now : Instant) : Prop where
  sound : limiter.Sound now
  bucket : ∀ key bucket, limiter.bucket? key = some bucket →
    bucket.Accounted limiter.budget key spent

namespace Accounted

theorem start {budget : Budget Rat} (rate : 0 ≤ budget.rate) (now : Instant) :
    (start budget).Accounted [] now where
  sound := .of_empty rate rfl now
  bucket key bucket found := by simp [Limiter.start, bucket?] at found

theorem mono (accounted : limiter.Accounted spent now) {later : Instant} (order : now ≤ later) :
    limiter.Accounted spent later where
  sound := accounted.sound.mono order
  bucket := accounted.bucket

theorem allow (accounted : limiter.Accounted spent now) (key : String) (cost : Option Rat) :
    (limiter.allow key cost now).2.Accounted
      (spent ++ (limiter.spending? (.allow key cost now)).toList) now where
  sound := accounted.sound.allow key cost
  bucket other bucket found := by
    rw [allow_bucket?] at found
    rw [allow_budget]
    split at found
    · rename_i same
      subst same
      cases found
      have before : (limiter.bucketFor other now).Accounted limiter.budget other spent := by
        cases present : limiter.bucket? other with
        | none =>
          left
          rw [bucketFor, present]
          rfl
        | some bucket =>
          rw [bucketFor, present]
          exact accounted.bucket other bucket present
      refine before.step accounted.sound.rate ⟨cost, now⟩ (bucketFor_refilled accounted.sound other) ?_
      intro granted
      have took := (Bucket.granted_pos_iff _ _ cost now).mp granted
      rw [← allow_fst] at took
      simp [spending?, took]
    · exact (accounted.bucket other bucket found).mono _

theorem sweep (accounted : limiter.Accounted spent now) :
    (limiter.sweep now).2.Accounted spent now where
  sound := accounted.sound.sweep
  bucket key bucket found := by
    rw [sweep_bucket? accounted.sound.distinct] at found
    exact accounted.bucket key bucket (Option.eq_some_of_filter_eq_some found)

theorem reset (accounted : limiter.Accounted spent now) : limiter.reset.2.Accounted spent now where
  sound :=
    have rate : 0 ≤ limiter.reset.2.budget.rate := accounted.sound.rate
    .of_empty rate rfl now
  bucket key bucket found := by simp [Limiter.reset, bucket?] at found

theorem step (accounted : limiter.Accounted spent now) {call : Call}
    (order : ∀ reading, call.reading? = some reading → now ≤ reading) :
    (limiter.step call).Accounted (spent ++ (limiter.spending? call).toList)
      (call.reading?.getD now) := by
  cases call with
  | allow key cost reading => exact (accounted.mono (order reading rfl)).allow key cost
  | sweep reading =>
    change (limiter.sweep reading).2.Accounted (spent ++ []) reading
    rw [List.append_nil]
    exact (accounted.mono (order reading rfl)).sweep
  | reset =>
    change limiter.reset.2.Accounted (spent ++ []) now
    rw [List.append_nil]
    exact accounted.reset

theorem run (accounted : limiter.Accounted spent now) {calls : List Call} {final : Instant}
    (ordered : (now :: calls.filterMap Call.reading? ++ [final]).Pairwise (· ≤ ·)) :
    (limiter.run calls).Accounted (spent ++ limiter.spendings calls) final := by
  induction calls generalizing limiter spent now with
  | nil =>
    rw [spendings, List.append_nil]
    exact accounted.mono (by simpa using ordered)
  | cons call rest inductionHypothesis =>
    obtain ⟨order, orderedRest⟩ := Call.readings_cons ordered
    have after := inductionHypothesis (accounted.step order) orderedRest
    rwa [List.append_assoc] at after

end Accounted

/-- The keys whose buckets a sweep at `now` finds full. -/
def fullKeys (limiter : Limiter Rat) (now : Instant) : List String :=
  (limiter.buckets.filter fun entry => entry.2.isReplenished limiter.budget now).map Prod.fst

theorem mem_fullKeys_iff (distinct : Association.Distinct limiter.buckets) (now : Instant)
    (key : String) :
    key ∈ limiter.fullKeys now ↔ ∃ bucket, limiter.bucket? key = some bucket ∧
      (bucket.available limiter.budget now).1 = limiter.budget.capacity := by
  have full (bucket : Bucket Rat) : bucket.isReplenished limiter.budget now = true ↔
      (bucket.available limiter.budget now).1 = limiter.budget.capacity :=
    Bucket.isReplenished_iff limiter.budget bucket now
  simp only [fullKeys, List.mem_map, List.mem_filter, full, Prod.exists, exists_and_right,
    exists_eq_right, distinct.mem_iff]
  rfl

theorem sweep_fst (limiter : Limiter Rat) (now : Instant) :
    (limiter.sweep now).1 = (limiter.fullKeys now).length := by
  have parts := List.length_eq_length_filter_add
    (l := limiter.buckets) (fun entry => entry.2.isReplenished limiter.budget now)
  simp only [sweep, fullKeys, List.length_map]
  omega

theorem sweep_bucket?_eq (distinct : Association.Distinct limiter.buckets) (now : Instant)
    (key : String) :
    (limiter.sweep now).2.bucket? key =
      if key ∈ limiter.fullKeys now then none else limiter.bucket? key := by
  rw [sweep_bucket? distinct]
  simp only [mem_fullKeys_iff distinct]
  cases found : limiter.bucket? key with
  | none => simp
  | some bucket =>
    have full := Bucket.isReplenished_iff limiter.budget bucket now
    by_cases replenished : bucket.isReplenished limiter.budget now = true
    · rw [Option.filter_some_neg (by simp [replenished]), if_pos ⟨bucket, rfl, full.mp replenished⟩]
    · rw [Option.filter_some_pos (by simp [replenished]), if_neg]
      rintro ⟨_, ⟨rfl⟩, reached⟩
      exact replenished (full.mpr reached)

/-- The keys that were charged less than a refill time before `now`. -/
def chargedLately (limiter : Limiter Rat) (calls : List Call) (now : Instant) : List String :=
  ((limiter.spendings calls).filter fun spending =>
    Elapsed.seconds (now.since spending.now) < limiter.budget.capacity / limiter.budget.rate).map
      Spending.key

theorem mem_chargedLately_iff (limiter : Limiter Rat) (calls : List Call) (now : Instant)
    (key : String) :
    key ∈ limiter.chargedLately calls now ↔ ∃ spending ∈ limiter.spendings calls,
      spending.key = key ∧
        Elapsed.seconds (now.since spending.now) < limiter.budget.capacity / limiter.budget.rate := by
  simp only [chargedLately, List.mem_map, List.mem_filter, decide_eq_true_eq]
  exact exists_congr fun spending => and_assoc.trans (and_congr_right' and_comm)

theorem mem_chargedLately_of_kept {fresh : Limiter Rat} {calls : List Call}
    (accounted : (fresh.run calls).Accounted (fresh.spendings calls) now)
    (rate : 0 < fresh.budget.rate) {key : String}
    (kept : ((fresh.run calls).sweep now).2.bucket? key ≠ none) :
    key ∈ fresh.chargedLately calls now := by
  rw [sweep_bucket?_eq accounted.sound.distinct, ne_eq, ite_eq_left_iff, not_forall] at kept
  obtain ⟨short, tracked⟩ := kept
  obtain ⟨bucket, found⟩ := Option.ne_none_iff_exists'.mp tracked
  have account := accounted.bucket key bucket found
  rw [mem_fullKeys_iff accounted.sound.distinct, run_budget] at short
  rw [run_budget] at account
  rw [mem_chargedLately_iff]
  apply account.recent rate (accounted.sound.refilled key bucket found)
  exact fun full => short ⟨bucket, found, full⟩

/-- A sweep after any calls in order removes exactly the keys whose buckets have all their tokens back,
and answers how many these are. Where tokens flow in at all, every key that is left was charged, for
something and with success, less than the time before in which a bucket fills; so no more keys are
left than were charged in that time. -/
theorem swept_to_chargedLately (capacity rate : Option Rat) (calls : List Call) (now : Instant)
    (ordered : Call.Ordered (calls ++ [.sweep now])) :
    let fresh := start (.ofSettings capacity rate)
    let limiter := fresh.run calls
    (∃ removed : List String, removed.Nodup ∧ (limiter.sweep now).1 = removed.length ∧
        (∀ key, key ∈ removed ↔ ∃ bucket, limiter.bucket? key = some bucket ∧
          (bucket.available limiter.budget now).1 = limiter.budget.capacity) ∧
        ∀ key, (limiter.sweep now).2.bucket? key =
          if key ∈ removed then none else limiter.bucket? key) ∧
      (0 < fresh.budget.rate →
        (∀ key, (limiter.sweep now).2.bucket? key ≠ none →
            ∃ spending ∈ fresh.spendings calls, spending.key = key ∧
              Elapsed.seconds (now.since spending.now) < fresh.budget.capacity / fresh.budget.rate) ∧
          (limiter.sweep now).2.tracked ≤ (fresh.chargedLately calls now).dedup.length) := by
  intro fresh limiter
  have readings : (calls.filterMap Call.reading? ++ [now]).Pairwise (· ≤ ·) := by
    simpa [Call.Ordered, Call.reading?] using ordered
  obtain ⟨early, before⟩ := exists_pairwise_cons readings
  have accounted : limiter.Accounted (fresh.spendings calls) now := by
    have begun := Accounted.start (Budget.ofSettings_rate_nonneg capacity rate) early
    simpa using begun.run before
  have distinct := accounted.sound.distinct
  refine ⟨⟨limiter.fullKeys now, ?_, sweep_fst limiter now, mem_fullKeys_iff distinct now,
    sweep_bucket?_eq distinct now⟩, fun refills => ⟨fun key kept => ?_, ?_⟩⟩
  · exact distinct.filter _
  · have lately := mem_chargedLately_of_kept accounted refills kept
    exact (mem_chargedLately_iff fresh calls now key).mp lately
  · have unique : ((limiter.sweep now).2.buckets.map Prod.fst).Nodup := accounted.sound.sweep.distinct
    have covered : (limiter.sweep now).2.buckets.map Prod.fst ⊆
        (fresh.chargedLately calls now).dedup := by
      intro key present
      -- a key that is listed has a bucket
      have kept : (limiter.sweep now).2.bucket? key ≠ none := by
        intro absent
        obtain ⟨entry, listed, rfl⟩ := List.mem_map.mp present
        have found := (accounted.sound.sweep.distinct.mem_iff entry.1 entry.2).mp listed
        rw [bucket?] at absent
        simp [absent] at found
      exact List.mem_dedup.mpr (mem_chargedLately_of_kept accounted refills kept)
    have counted := (unique.subperm covered).length_le
    rwa [List.length_map] at counted

/-- Of four keys one has its tokens back, one was only denied and one gave no valid cost: they go. The
fourth spent all it had two seconds ago and stays. -/
theorem swept_to_chargedLately_of_four :
    let calls : List Call := [.allow "empty" (some 3) ⟨0⟩, .allow "idle" (some 1) ⟨500000000⟩,
      .allow "greedy" (some 4) ⟨500000000⟩, .allow "wrong" none ⟨1000000000⟩]
    let fresh := start (.ofSettings (some 3) (some 1))
    Call.Ordered (calls ++ [.sweep ⟨2000000000⟩]) ∧ 0 < fresh.budget.rate ∧
      ((fresh.run calls).sweep ⟨2000000000⟩).1 = 3 ∧
      ((fresh.run calls).sweep ⟨2000000000⟩).2.bucket? "empty" ≠ none ∧
      (∃ spending ∈ fresh.spendings calls, spending.key = "empty" ∧
        Elapsed.seconds ((⟨2000000000⟩ : Instant).since spending.now) <
          fresh.budget.capacity / fresh.budget.rate) ∧
      ((fresh.run calls).sweep ⟨2000000000⟩).2.tracked ≤
        (fresh.chargedLately calls ⟨2000000000⟩).dedup.length := by
  intro calls fresh
  have ordered : Call.Ordered (calls ++ [.sweep ⟨2000000000⟩]) := by decide
  have refills : 0 < fresh.budget.rate := by decide +kernel
  have kept : ((fresh.run calls).sweep ⟨2000000000⟩).2.bucket? "empty" ≠ none := by
    rw [Option.ne_none_iff_isSome]
    decide +kernel
  have swept := (swept_to_chargedLately (some 3) (some 1) calls ⟨2000000000⟩ ordered).2 refills
  exact ⟨ordered, refills, by decide +kernel, kept, swept.1 "empty" kept, swept.2⟩

end Limiter
end Dashboard.RateLimit
