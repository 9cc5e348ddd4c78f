import Dashboard.Proofs.RateLimit.Independence

/-! No burst beyond the budget. What a bucket grants comes out of the tokens it had, or out of those
that flowed in meanwhile. The readings that charges come with may go back, because callers race for
them; the flow is measured between the latest of them. -/

namespace Dashboard.RateLimit

/-- A charge to a bucket, with the reading of the clock that it comes with. -/
structure Charge where
  cost : Option Rat
  now : Instant

namespace Charge

/-- Whether the cost is a finite number that is not below zero. -/
def isAmount (charge : Charge) : Bool := charge.cost.any (0 ≤ ·)

/-- The latest of `created` and the readings of the charges with an amount. -/
def latest (created : Instant) (charges : List Charge) : Instant :=
  (charges.filter isAmount).foldl (fun reading charge => reading.latest charge.now) created

end Charge

namespace Bucket

def step (budget : Budget Rat) (bucket : Bucket Rat) (charge : Charge) : Bucket Rat :=
  (bucket.allow budget charge.cost charge.now).2

def run (budget : Budget Rat) (bucket : Bucket Rat) (charges : List Charge) : Bucket Rat :=
  charges.foldl (step budget) bucket

/-- What a charge is granted: its cost, or nothing. -/
def granted (budget : Budget Rat) (bucket : Bucket Rat) (charge : Charge) : Rat :=
  if (bucket.allow budget charge.cost charge.now).1 then charge.cost.getD 0 else 0

/-- What one charge after another is granted. -/
def grants (budget : Budget Rat) (bucket : Bucket Rat) : List Charge → List Rat
  | [] => []
  | charge :: rest =>
    bucket.granted budget charge :: (bucket.step budget charge).grants budget rest

end Bucket

theorem le_latest_left (first second : Instant) : first ≤ first.latest second := by
  unfold Instant.latest
  split
  · assumption
  · exact Instant.le_refl first

/-- No time passes up to a later reading that the latest ones do not count. -/
theorem since_latest (now refilled : Instant) :
    now.since refilled = (refilled.latest now).since refilled := by
  by_cases order : refilled ≤ now
  · rw [Instant.latest, if_pos order]
  · have back : now ≤ refilled := by
      have := Instant.le_iff.not.mp order
      exact Instant.le_iff.mpr (by omega)
    rw [Instant.latest, if_neg order, Instant.since_self, Instant.since_of_le back]

theorem seconds_zero : (Elapsed.seconds Duration.zero : Rat) = 0 := by
  change ((0 : Nat) : Rat) / 1000000000 = 0
  simp

theorem seconds_since_add {first second third : Instant} (before : first ≤ second)
    (after : second ≤ third) :
    (Elapsed.seconds (third.since first) : Rat) =
      Elapsed.seconds (second.since first) + Elapsed.seconds (third.since second) := by
  have nanos : (third.since first).nanos =
      (second.since first).nanos + (third.since second).nanos := by
    have := Instant.le_iff.mp before
    have := Instant.le_iff.mp after
    simp only [Instant.since_nanos]
    omega
  change ((third.since first).nanos : Rat) / 1000000000 =
    ((second.since first).nanos : Rat) / 1000000000 +
      ((third.since second).nanos : Rat) / 1000000000
  rw [nanos, Nat.cast_add, add_div]

namespace Bucket

variable {budget : Budget Rat} {bucket : Bucket Rat}

theorem tokensAt_le_capacity (budget : Budget Rat) (bucket : Bucket Rat) (now : Instant) :
    bucket.tokensAt budget now ≤ budget.capacity := by
  rw [tokensAt_eq_min]
  exact min_le_right _ _

theorem tokensAt_nonneg (rate : 0 ≤ budget.rate) (capacity : 0 ≤ budget.capacity)
    (tokens : 0 ≤ bucket.tokens) (now : Instant) : 0 ≤ bucket.tokensAt budget now := by
  have gained : 0 ≤ Elapsed.seconds (now.since bucket.refilled) * budget.rate :=
    mul_nonneg (seconds_nonneg _) rate
  rw [tokensAt_eq_min]
  exact le_min (add_nonneg tokens gained) capacity

/-- Everything that a charge can do: one without an amount does nothing, and any other refills the
bucket and takes what it is granted, which is nothing or no more than there is. -/
theorem step_cases (budget : Budget Rat) (bucket : Bucket Rat) (charge : Charge) :
    (charge.isAmount = false ∧ bucket.granted budget charge = 0 ∧
        bucket.step budget charge = bucket) ∨
      (charge.isAmount = true ∧ 0 ≤ bucket.granted budget charge ∧
        (bucket.granted budget charge = 0 ∨
          bucket.granted budget charge ≤ bucket.tokensAt budget charge.now) ∧
        bucket.step budget charge =
          ⟨bucket.tokensAt budget charge.now - bucket.granted budget charge,
            bucket.refilled.latest charge.now⟩) := by
  obtain ⟨cost, now⟩ := charge
  cases cost with
  | none =>
    left
    exact ⟨rfl, rfl, rfl⟩
  | some cost =>
    by_cases negative : cost < 0
    · left
      refine ⟨?_, ?_, ?_⟩
      · simpa [Charge.isAmount] using negative
      · simp [granted, allow, negative]
      · simp [step, allow, negative]
    · right
      have nonneg : 0 ≤ cost := not_lt.mp negative
      have amount : Charge.isAmount ⟨some cost, now⟩ = true := by simpa [Charge.isAmount] using nonneg
      by_cases enough : cost ≤ bucket.tokensAt budget now
      · have taken : bucket.granted budget ⟨some cost, now⟩ = cost := by
          simp [granted, allow, negative, refill, enough]
        rw [taken]
        refine ⟨amount, nonneg, Or.inr enough, ?_⟩
        simp [step, allow, negative, refill, enough]
      · have refused : bucket.granted budget ⟨some cost, now⟩ = 0 := by
          simp [granted, allow, negative, refill, enough]
        rw [refused]
        refine ⟨amount, le_rfl, Or.inl rfl, ?_⟩
        simp [step, allow, negative, refill, enough]

theorem step_refilled (budget : Budget Rat) (bucket : Bucket Rat) (charge : Charge) :
    (bucket.step budget charge).refilled = Charge.latest bucket.refilled [charge] := by
  rcases bucket.step_cases budget charge with ⟨noAmount, -, stays⟩ | ⟨amount, -, -, steps⟩
  · simp [stays, Charge.latest, noAmount]
  · simp [steps, Charge.latest, amount]

theorem le_step_refilled (budget : Budget Rat) (bucket : Bucket Rat) (charge : Charge) :
    bucket.refilled ≤ (bucket.step budget charge).refilled := by
  rcases bucket.step_cases budget charge with ⟨-, -, stays⟩ | ⟨-, -, -, steps⟩
  · rw [stays]
    exact Instant.le_refl _
  · rw [steps]
    exact le_latest_left _ _

/-- A bucket never holds less than nothing, nor more than its capacity. -/
theorem step_tokens (rate : 0 ≤ budget.rate)
    (tokens : 0 ≤ bucket.tokens ∧ bucket.tokens ≤ budget.capacity) (charge : Charge) :
    0 ≤ (bucket.step budget charge).tokens ∧
      (bucket.step budget charge).tokens ≤ budget.capacity := by
  have capacity : 0 ≤ budget.capacity := tokens.1.trans tokens.2
  have refilled := tokensAt_nonneg rate capacity tokens.1 charge.now
  have capped := tokensAt_le_capacity budget bucket charge.now
  rcases bucket.step_cases budget charge with ⟨-, -, stays⟩ | ⟨-, nonneg, afforded, steps⟩
  · rw [stays]
    exact tokens
  · rw [steps]
    constructor
    · rcases afforded with nothing | enough
      · simpa [nothing] using refilled
      · exact sub_nonneg.mpr enough
    · exact (sub_le_self _ nonneg).trans capped

/-- A grant is paid for by the tokens that were there and those that have flowed in. -/
theorem granted_add_step_tokens_le (budget : Budget Rat) (bucket : Bucket Rat) (charge : Charge) :
    bucket.granted budget charge + (bucket.step budget charge).tokens ≤
      bucket.tokens + budget.rate *
        Elapsed.seconds ((bucket.step budget charge).refilled.since bucket.refilled) := by
  rcases bucket.step_cases budget charge with ⟨-, nothing, stays⟩ | ⟨-, -, -, steps⟩
  · simp [nothing, stays, Instant.since_self, seconds_zero]
  · have flowed : bucket.tokensAt budget charge.now ≤ bucket.tokens +
        Elapsed.seconds ((bucket.refilled.latest charge.now).since bucket.refilled) *
          budget.rate := by
      rw [tokensAt_eq_min, since_latest]
      exact min_le_left _ _
    rw [steps, add_sub_cancel, mul_comm]
    exact flowed

/-- With the first charge of a window, no more than the capacity can be granted: what flowed in before
it is capped. -/
theorem granted_add_step_tokens_le_capacity (tokens : bucket.tokens ≤ budget.capacity)
    (charge : Charge) :
    bucket.granted budget charge + (bucket.step budget charge).tokens ≤ budget.capacity := by
  rcases bucket.step_cases budget charge with ⟨-, nothing, stays⟩ | ⟨-, -, -, steps⟩
  · simpa [nothing, stays] using tokens
  · rw [steps, add_sub_cancel]
    exact tokensAt_le_capacity budget bucket charge.now

theorem run_refilled (budget : Budget Rat) (bucket : Bucket Rat) (charges : List Charge) :
    (bucket.run budget charges).refilled = Charge.latest bucket.refilled charges := by
  induction charges generalizing bucket with
  | nil => rfl
  | cons charge rest inductionHypothesis =>
    have first := step_refilled budget bucket charge
    change ((bucket.step budget charge).run budget rest).refilled = _
    rw [inductionHypothesis, first]
    by_cases amount : charge.isAmount = true
    · simp [Charge.latest, amount]
    · simp [Charge.latest, amount]

theorem le_run_refilled (budget : Budget Rat) (bucket : Bucket Rat) (charges : List Charge) :
    bucket.refilled ≤ (bucket.run budget charges).refilled := by
  induction charges generalizing bucket with
  | nil => exact Instant.le_refl _
  | cons charge rest inductionHypothesis =>
    exact Instant.le_trans (bucket.le_step_refilled budget charge) (inductionHypothesis _)

theorem run_tokens (rate : 0 ≤ budget.rate)
    (tokens : 0 ≤ bucket.tokens ∧ bucket.tokens ≤ budget.capacity) (charges : List Charge) :
    0 ≤ (bucket.run budget charges).tokens ∧
      (bucket.run budget charges).tokens ≤ budget.capacity := by
  induction charges generalizing bucket with
  | nil => exact tokens
  | cons charge rest inductionHypothesis => exact inductionHypothesis (step_tokens rate tokens charge)

/-- All grants of a run together are paid for by the tokens that were there at its start and those
that have flowed in since. -/
theorem sum_grants_add_run_tokens_le (budget : Budget Rat) (bucket : Bucket Rat)
    (charges : List Charge) :
    (bucket.grants budget charges).sum + (bucket.run budget charges).tokens ≤
      bucket.tokens + budget.rate *
        Elapsed.seconds ((bucket.run budget charges).refilled.since bucket.refilled) := by
  induction charges generalizing bucket with
  | nil => simp [grants, run, Instant.since_self, seconds_zero]
  | cons charge rest inductionHypothesis =>
    have first := bucket.granted_add_step_tokens_le budget charge
    have others := inductionHypothesis (bucket.step budget charge)
    have passed := seconds_since_add (bucket.le_step_refilled budget charge)
      (le_run_refilled budget (bucket.step budget charge) rest)
    change (bucket.granted budget charge + ((bucket.step budget charge).grants budget rest).sum) +
        ((bucket.step budget charge).run budget rest).tokens ≤ bucket.tokens + budget.rate *
      Elapsed.seconds (((bucket.step budget charge).run budget rest).refilled.since bucket.refilled)
    rw [passed, mul_add]
    linarith

theorem run_append (budget : Budget Rat) (bucket : Bucket Rat) (charges more : List Charge) :
    bucket.run budget (charges ++ more) = (bucket.run budget charges).run budget more := by
  simp [run]

theorem grants_take (budget : Budget Rat) (bucket : Bucket Rat) (charges : List Charge)
    (count : Nat) :
    (bucket.grants budget charges).take count = bucket.grants budget (charges.take count) := by
  induction charges generalizing bucket count with
  | nil => simp [grants]
  | cons charge rest inductionHypothesis =>
    cases count with
    | zero => rfl
    | succ count => simp [grants, inductionHypothesis]

theorem grants_drop (budget : Budget Rat) (bucket : Bucket Rat) (charges : List Charge)
    (count : Nat) :
    (bucket.grants budget charges).drop count =
      (bucket.run budget (charges.take count)).grants budget (charges.drop count) := by
  induction charges generalizing bucket count with
  | nil => simp [grants]
  | cons charge rest inductionHypothesis =>
    cases count with
    | zero => rfl
    | succ count => simpa [grants, run] using inductionHypothesis (bucket.step budget charge) count

/-- A window of charges is granted no more than the capacity, and what has flowed in between its first
charge and its last. -/
theorem sum_grants_window_le (capacity rate : Option Rat) (created : Instant) (early : List Charge)
    (first : Charge) (rest : List Charge) :
    let budget := Budget.ofSettings capacity rate
    (((full budget created).run budget early).grants budget (first :: rest)).sum ≤
      budget.capacity + budget.rate * Elapsed.seconds
        ((Charge.latest created (early ++ first :: rest)).since
          (Charge.latest created (early ++ [first]))) := by
  intro budget
  have start : 0 ≤ (full budget created).tokens ∧ (full budget created).tokens ≤ budget.capacity :=
    ⟨sanitized_nonneg capacity, le_rfl⟩
  have before := run_tokens (sanitized_nonneg rate) start early
  have left := (run_tokens (sanitized_nonneg rate) start (early ++ first :: rest)).1
  have atFirst : _ = Charge.latest created _ :=
    run_refilled budget (full budget created) (early ++ [first])
  have atLast : _ = Charge.latest created _ :=
    run_refilled budget (full budget created) (early ++ first :: rest)
  rw [run_append] at left atFirst atLast
  have paid := granted_add_step_tokens_le_capacity before.2 first
  generalize (full budget created).run budget early = bucket at left atFirst atLast paid ⊢
  have flowed := sum_grants_add_run_tokens_le budget (bucket.step budget first) rest
  rw [← atFirst, ← atLast]
  change bucket.granted budget first + ((bucket.step budget first).grants budget rest).sum ≤
    budget.capacity + budget.rate * Elapsed.seconds
      (((bucket.step budget first).run budget rest).refilled.since
        (bucket.step budget first).refilled)
  change 0 ≤ ((bucket.step budget first).run budget rest).tokens at left
  linarith

/-- No burst beyond the budget. Whatever the settings, and in whatever order the readings come, a
bucket never holds less than nothing nor more than its capacity. A window is a charge, by its place,
with any number of charges behind it; it is granted no more than the capacity and what flows in
between the latest readings at its first and at its last charge. -/
theorem sum_grants_le_budget (capacity rate : Option Rat) (created : Instant)
    (charges : List Charge) :
    let budget := Budget.ofSettings capacity rate
    let bucket := full budget created
    (0 ≤ (bucket.run budget charges).tokens ∧
        (bucket.run budget charges).tokens ≤ budget.capacity) ∧
      ∀ first behind, (((bucket.grants budget charges).drop first).take (behind + 1)).sum ≤
        budget.capacity + budget.rate * Elapsed.seconds
          ((Charge.latest created (charges.take (first + (behind + 1)))).since
            (Charge.latest created (charges.take (first + 1)))) := by
  intro budget bucket
  have rate_nonneg : 0 ≤ budget.rate := sanitized_nonneg rate
  have capacity_nonneg : 0 ≤ budget.capacity := sanitized_nonneg capacity
  refine ⟨run_tokens rate_nonneg ⟨capacity_nonneg, le_rfl⟩ charges, fun first behind => ?_⟩
  have toFirst := List.take_add (l := charges) (i := first) (j := 1)
  have toLast := List.take_add (l := charges) (i := first) (j := behind + 1)
  rw [grants_drop, grants_take]
  cases remaining : charges.drop first with
  | nil =>
    -- the window lies behind the last charge
    have flowed := mul_nonneg rate_nonneg (seconds_nonneg
      ((Charge.latest created (charges.take (first + (behind + 1)))).since
        (Charge.latest created (charges.take (first + 1)))))
    simpa [grants] using add_nonneg capacity_nonneg flowed
  | cons charge rest =>
    rw [remaining] at toFirst toLast
    rw [toFirst, toLast]
    exact sum_grants_window_le capacity rate created (charges.take first) charge (rest.take behind)

/-- With two tokens and one more a second, a window of a second is granted three. A reading from before
the others adds nothing, and neither does the time that it seems to take back to them. -/
example :
    (full (.ofSettings (some 2) (some 1)) ⟨1000000000⟩).grants (.ofSettings (some 2) (some 1))
      [⟨some 2, ⟨1000000000⟩⟩, ⟨some 1, ⟨0⟩⟩, ⟨some 1, ⟨2000000000⟩⟩, ⟨some 1, ⟨0⟩⟩,
        ⟨some 1, ⟨2000000000⟩⟩] = [2, 0, 1, 0, 0] := by
  decide +kernel

end Bucket
end Dashboard.RateLimit
