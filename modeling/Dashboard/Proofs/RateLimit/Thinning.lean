import Dashboard.Proofs.RateLimit.Window

/-! What takes nothing from a bucket leaves no trace in it. A denied charge and a read refill the bucket
all the same, but to refill it twice is to refill it once at the later reading, and a bucket shows
nothing but what it is after a refill. -/

namespace Dashboard.RateLimit

deriving instance DecidableEq for Charge

/-- What can be asked of a bucket, with the reading of the clock that it comes with. -/
inductive Inquiry where
  | take (charge : Charge)
  | available (now : Instant)
  | isReplenished (now : Instant)
deriving DecidableEq

def Inquiry.now : Inquiry → Instant
  | .take charge => charge.now
  | .available now | .isReplenished now => now

/-- What a bucket says to an inquiry. -/
inductive Answer where
  | decision (allowed : Bool)
  | tokens (amount : Rat)
  | replenished (isFull : Bool)
deriving DecidableEq, Repr

/-- Whether an inquiry with this answer takes no tokens: a read, a charge that is denied, or one whose
cost is no finite number above zero. -/
def Inquiry.takesNothing : Inquiry → Answer → Bool
  | .take charge, answer => answer = .decision false || charge.cost.all (· ≤ 0)
  | .available _, _ | .isReplenished _, _ => true

/-- Inquiries with their answers, some of those that take nothing being left out. -/
inductive Thinned : List (Inquiry × Answer) → List (Inquiry × Answer) → Prop where
  | nil : Thinned [] []
  | keep (entry : Inquiry × Answer) {entries kept : List (Inquiry × Answer)}
      (rest : Thinned entries kept) : Thinned (entry :: entries) (entry :: kept)
  | drop {inquiry : Inquiry} {answer : Answer} {entries kept : List (Inquiry × Answer)}
      (nothing : inquiry.takesNothing answer = true) (rest : Thinned entries kept) :
      Thinned ((inquiry, answer) :: entries) kept

namespace Bucket

def ask (budget : Budget Rat) (bucket : Bucket Rat) : Inquiry → Answer × Bucket Rat
  | .take charge =>
    let (allowed, bucket) := bucket.allow budget charge.cost charge.now
    (.decision allowed, bucket)
  | .available now =>
    let (amount, bucket) := bucket.available budget now
    (.tokens amount, bucket)
  | .isReplenished now => (.replenished (bucket.isReplenished budget now), bucket)

def transcript (budget : Budget Rat) (bucket : Bucket Rat) :
    List Inquiry → List (Inquiry × Answer)
  | [] => []
  | inquiry :: rest =>
    (inquiry, (bucket.ask budget inquiry).1) ::
      (bucket.ask budget inquiry).2.transcript budget rest

def afterAll (budget : Budget Rat) (bucket : Bucket Rat) (inquiries : List Inquiry) : Bucket Rat :=
  inquiries.foldl (fun bucket inquiry => (bucket.ask budget inquiry).2) bucket

end Bucket

theorem latest_of_le {first second : Instant} (order : first ≤ second) :
    first.latest second = second := if_pos order

theorem latest_of_not_le {first second : Instant} (order : ¬ first ≤ second) :
    first.latest second = first := if_neg order

theorem latest_latest {now later : Instant} (order : now ≤ later) (refilled : Instant) :
    (refilled.latest now).latest later = refilled.latest later := by
  by_cases passed : refilled ≤ now
  · have both := Instant.le_trans passed order
    rw [latest_of_le passed, latest_of_le order, latest_of_le both]
  · rw [latest_of_not_le passed]

/-- The time up to a later reading is the time up to the earlier one and what has passed since, also
when the earlier one is from before the last refill. -/
theorem seconds_since_latest {now later : Instant} (order : now ≤ later) (refilled : Instant) :
    (Elapsed.seconds (later.since refilled) : Rat) =
      Elapsed.seconds (now.since refilled) + Elapsed.seconds (later.since (refilled.latest now)) := by
  by_cases passed : refilled ≤ now
  · rw [latest_of_le passed, seconds_since_add passed order]
  · have back : now ≤ refilled := by
      have := Instant.le_iff.not.mp passed
      exact Instant.le_iff.mpr (by omega)
    rw [latest_of_not_le passed, Instant.since_of_le back, seconds_zero, zero_add]

namespace Bucket

variable {budget : Budget Rat} {bucket left right : Bucket Rat} {now later : Instant}

/-- What an earlier refill cuts off at the capacity, the later one would have cut off. -/
theorem tokensAt_refill (rate : 0 ≤ budget.rate) (order : now ≤ later) (bucket : Bucket Rat) :
    (bucket.refill budget now).tokensAt budget later = bucket.tokensAt budget later := by
  have gained : 0 ≤ Elapsed.seconds (later.since (bucket.refilled.latest now)) * budget.rate :=
    mul_nonneg (seconds_nonneg _) rate
  calc (bucket.refill budget now).tokensAt budget later
      = min (min (bucket.tokens + Elapsed.seconds (now.since bucket.refilled) * budget.rate)
            budget.capacity +
          Elapsed.seconds (later.since (bucket.refilled.latest now)) * budget.rate)
          budget.capacity := by
        rw [tokensAt_eq_min, refill, tokensAt_eq_min]
    _ = min (bucket.tokens + Elapsed.seconds (later.since bucket.refilled) * budget.rate)
          budget.capacity := by
        rw [← min_add_add_right, min_assoc, min_eq_right (le_add_of_nonneg_right gained),
          seconds_since_latest order bucket.refilled, add_mul, add_assoc]
    _ = bucket.tokensAt budget later := (tokensAt_eq_min budget bucket later).symm

theorem refill_refill (rate : 0 ≤ budget.rate) (order : now ≤ later) (bucket : Bucket Rat) :
    (bucket.refill budget now).refill budget later = bucket.refill budget later := by
  have tokens := tokensAt_refill rate order bucket
  have refilled := latest_latest order bucket.refilled
  rw [refill, refill, Bucket.mk.injEq]
  exact ⟨tokens, refilled⟩

/-- Buckets that are the same after a refill stay so. -/
theorem refill_congr (rate : 0 ≤ budget.rate) (order : now ≤ later)
    (same : left.refill budget now = right.refill budget now) :
    left.refill budget later = right.refill budget later := by
  rw [← refill_refill rate order left, same, refill_refill rate order]

/-- A bucket counts as replenished when a refill fills it. -/
theorem isReplenished_iff (budget : Budget Rat) (bucket : Bucket Rat) (now : Instant) :
    bucket.isReplenished budget now = true ↔ bucket.tokensAt budget now = budget.capacity := by
  rw [tokensAt_eq_min, min_eq_right_iff]
  simp [isReplenished]

/-- A charge with an amount is a charge to the refilled bucket. -/
theorem allow_refill (rate : 0 ≤ budget.rate) (bucket : Bucket Rat) {cost : Rat} (amount : 0 ≤ cost)
    (now : Instant) :
    (bucket.refill budget now).allow budget (some cost) now = bucket.allow budget (some cost) now := by
  have again := refill_refill rate (Instant.le_refl now) bucket
  simp only [allow, not_lt.mpr amount, if_false, again]

/-- Whatever is asked, a bucket shows nothing but what it is after a refill. -/
theorem ask_congr (rate : 0 ≤ budget.rate) (inquiry : Inquiry)
    (same : left.refill budget inquiry.now = right.refill budget inquiry.now) :
    (left.ask budget inquiry).1 = (right.ask budget inquiry).1 ∧
      (left.ask budget inquiry).2.refill budget inquiry.now =
        (right.ask budget inquiry).2.refill budget inquiry.now := by
  cases inquiry with
  | take charge =>
    obtain ⟨cost, now⟩ := charge
    cases cost with
    | none => exact ⟨rfl, same⟩
    | some cost =>
      by_cases amount : 0 ≤ cost
      · have alike : left.allow budget (some cost) now = right.allow budget (some cost) now := by
          rw [← allow_refill rate left amount, ← allow_refill rate right amount]
          exact congrArg (fun bucket => bucket.allow budget (some cost) now) same
        simp only [ask, alike, and_self]
      · simpa [ask, allow, not_le.mp amount] using same
  | available now =>
    have alike : left.available budget now = right.available budget now :=
      congrArg (fun bucket => (bucket.tokens, bucket)) same
    simp only [ask, alike, and_self]
  | isReplenished now =>
    have tokens : left.tokensAt budget now = right.tokensAt budget now :=
      congrArg Bucket.tokens same
    refine ⟨congrArg Answer.replenished ?_, same⟩
    rw [Bool.eq_iff_iff, isReplenished_iff, isReplenished_iff, tokens]

/-- An inquiry that takes nothing refills the bucket, if it does anything. -/
theorem ask_of_takesNothing (rate : 0 ≤ budget.rate) (inquiry : Inquiry)
    (nothing : inquiry.takesNothing (bucket.ask budget inquiry).1 = true) :
    (bucket.ask budget inquiry).2.refill budget inquiry.now = bucket.refill budget inquiry.now := by
  have again := refill_refill rate (Instant.le_refl inquiry.now) bucket
  cases inquiry with
  | take charge =>
    obtain ⟨cost, now⟩ := charge
    cases cost with
    | none => rfl
    | some cost =>
      by_cases negative : cost < 0
      · simp [ask, allow, negative]
      · by_cases enough : cost ≤ (bucket.refill budget now).tokens
        · have free : cost = 0 := by
            have paid : cost ≤ 0 := by
              simpa [Inquiry.takesNothing, ask, allow, negative, enough] using nothing
            exact le_antisymm paid (not_lt.mp negative)
          subst free
          simpa [ask, allow, enough, Inquiry.now] using again
        · simpa [ask, allow, negative, enough, Inquiry.now] using again
  | available now => exact again
  | isReplenished now => rfl

/-- Where two buckets are the same after a refill, the second answers the inquiries that are kept as the
first answers them all, and both stay the same. -/
theorem transcript_of_refill (rate : 0 ≤ budget.rate) {inquiries : List Inquiry}
    {kept : List (Inquiry × Answer)} (same : left.refill budget now = right.refill budget now)
    (ordered : (now :: inquiries.map Inquiry.now ++ [later]).Pairwise (· ≤ ·))
    (thinned : Thinned (left.transcript budget inquiries) kept) :
    right.transcript budget (kept.map Prod.fst) = kept ∧
      (right.afterAll budget (kept.map Prod.fst)).refill budget later =
        (left.afterAll budget inquiries).refill budget later := by
  induction inquiries generalizing left right now kept with
  | nil =>
    cases thinned
    have order : now ≤ later := by simpa using ordered
    exact ⟨rfl, (refill_congr rate order same).symm⟩
  | cons inquiry rest inductionHypothesis =>
    have order : now ≤ inquiry.now := List.rel_of_pairwise_cons ordered (by simp)
    have asked := refill_congr rate order same
    rw [transcript] at thinned
    cases thinned with
    | keep entry others =>
      obtain ⟨answer, after⟩ := ask_congr rate inquiry asked
      obtain ⟨answers, last⟩ := inductionHypothesis after ordered.tail others
      refine ⟨?_, last⟩
      rw [List.map_cons, transcript, answers, answer]
    | drop nothing others =>
      have after := ask_of_takesNothing rate inquiry nothing
      exact inductionHypothesis (after.trans asked) ordered.tail others

/-- What takes nothing leaves no trace. Of the inquiries to a bucket, some reads and charges that were
denied, cost nothing or had no valid cost may be left out: the others are answered as before, and
the tokens that are available later are the same. -/
theorem transcript_of_thinned (capacity rate : Option Rat) (bucket : Bucket Rat)
    (inquiries : List Inquiry) (kept : List (Inquiry × Answer)) (later : Instant) :
    let budget := Budget.ofSettings capacity rate
    (inquiries.map Inquiry.now ++ [later]).Pairwise (· ≤ ·) →
      Thinned (bucket.transcript budget inquiries) kept →
      bucket.transcript budget (kept.map Prod.fst) = kept ∧
        ((bucket.afterAll budget (kept.map Prod.fst)).available budget later).1 =
          ((bucket.afterAll budget inquiries).available budget later).1 := by
  intro budget ordered thinned
  have nonneg : 0 ≤ budget.rate := Budget.ofSettings_rate_nonneg capacity rate
  -- the bucket is the same as itself at any reading before the first inquiry
  obtain ⟨early, before⟩ := exists_pairwise_cons ordered
  have same : bucket.refill budget early = bucket.refill budget early := rfl
  obtain ⟨answers, last⟩ := transcript_of_refill nonneg same before thinned
  exact ⟨answers, congrArg Bucket.tokens last⟩

/-- Between two charges that take all there is, a denial, a read, a cost that is no number, one of nothing
and a check leave no trace. -/
theorem transcript_of_thinned_spent :
    let budget := Budget.ofSettings (some 2) (some 1)
    let bucket := full budget ⟨0⟩
    let inquiries : List Inquiry := [.take ⟨some 2, ⟨0⟩⟩, .take ⟨some 1, ⟨500000000⟩⟩,
      .available ⟨700000000⟩, .take ⟨none, ⟨800000000⟩⟩, .take ⟨some 0, ⟨900000000⟩⟩,
      .isReplenished ⟨1000000000⟩, .take ⟨some 1, ⟨1000000000⟩⟩, .take ⟨some 1, ⟨1000000000⟩⟩]
    let kept : List (Inquiry × Answer) :=
      [(.take ⟨some 2, ⟨0⟩⟩, .decision true), (.take ⟨some 1, ⟨1000000000⟩⟩, .decision true)]
    Thinned (bucket.transcript budget inquiries) kept ∧
      bucket.transcript budget (kept.map Prod.fst) = kept ∧
      ((bucket.afterAll budget (kept.map Prod.fst)).available budget ⟨2500000000⟩).1 =
        ((bucket.afterAll budget inquiries).available budget ⟨2500000000⟩).1 := by
  intro budget bucket inquiries kept
  have answers : bucket.transcript budget inquiries = inquiries.zip
      [.decision true, .decision false, .tokens (7 / 10), .decision false, .decision true,
        .replenished false, .decision true, .decision false] := by
    decide +kernel
  have thinned : Thinned (bucket.transcript budget inquiries) kept := by
    rw [answers]
    exact .keep _ (.drop rfl (.drop rfl (.drop rfl (.drop rfl (.drop rfl (.keep _ (.drop rfl .nil)))))))
  exact ⟨thinned,
    transcript_of_thinned (some 2) (some 1) bucket inquiries kept ⟨2500000000⟩ (by decide) thinned⟩

end Bucket
end Dashboard.RateLimit
