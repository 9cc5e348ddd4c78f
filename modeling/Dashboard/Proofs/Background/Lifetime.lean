import Dashboard.Cache.Service
import Dashboard.RateLimit.Service

/-! How long a background task lives. Its deadlines are always one period ahead of some reading of the
clock, so it goes on for as long as a reading one period ahead can be written down. A task for which
that is not so at its start is finished before its first tick, and nobody is told. -/

namespace Dashboard.Background

/-- Lets the clock go on from reading to reading and does at each what is due. -/
def Wheel.pass {σ : Type} (act : Wheel → Instant → σ → σ) : Wheel → List Instant → σ → σ
  | _, [], state => state
  | wheel, now :: rest, state => pass act (wheel.turn now) rest (act (wheel.turn now) now state)

/-- What is seen of a state passes by itself when each step of it can be told from it alone. -/
theorem Wheel.pass_view {σ τ : Type} {act : Wheel → Instant → σ → σ} {seen : Wheel → Instant → τ → τ}
    (view : σ → τ) (commutes : ∀ wheel now state, view (act wheel now state) = seen wheel now (view state))
    (wheel : Wheel) (readings : List Instant) (state : σ) :
    view (wheel.pass act readings state) = wheel.pass seen readings (view state) := by
  induction readings generalizing wheel state with
  | nil => rfl
  | cons now rest inductionHypothesis =>
    rw [pass, pass, inductionHypothesis, commutes]

/-- Whether a deadline one period after a reading can be kept. -/
def Fits (period : Duration) (now : Instant) : Prop :=
  now.after (period.max Task.shortestPeriod) ≤ Ticker.lastDeadline

instance (period : Duration) (now : Instant) : Decidable (Fits period now) :=
  inferInstanceAs (Decidable (_ ≤ _))

theorem Fits.le_last {period : Duration} {now : Instant} (fits : Fits period now) :
    now.after (period.max Task.shortestPeriod) ≤ Instant.last :=
  Instant.le_trans fits (by decide)

theorem Wheel.turn_reached {wheel : Wheel} {now later : Instant}
    (reached : wheel.reached ≤ millisecondDown now) (order : now ≤ later) :
    (wheel.turn later).reached ≤ millisecondDown later := by
  have earlier := Instant.le_iff.mp order
  simp only [turn, millisecondDown, Int.fdiv_eq_ediv_of_nonneg _ (show (0 : Int) ≤ 1000000 by decide)]
    at reached ⊢
  omega

namespace Ticker

variable {ticker : Ticker} {wheel : Wheel} {now later : Instant}

/-- A ticker that starts a new period at a late tick, and whose deadline is at most a period ahead. -/
structure Ahead (ticker : Ticker) (now : Instant) : Prop where
  missed : ticker.missed = .delay
  deadline : ticker.deadline ≤ now.after ticker.period

theorem Ahead.mono (ahead : ticker.Ahead now) (order : now ≤ later) : ticker.Ahead later where
  missed := ahead.missed
  deadline := by
    have bound := Instant.le_iff.mp ahead.deadline
    have earlier := Instant.le_iff.mp order
    refine Instant.le_iff.mpr ?_
    simp only [Instant.after] at bound ⊢
    omega

theorem deadline_le_of_isDue (reached : wheel.reached ≤ millisecondDown now)
    (due : ticker.isDue wheel = true) : ticker.deadline ≤ now := by
  have passed : millisecondUp ticker.deadline ≤ wheel.reached := of_decide_eq_true due
  refine Instant.le_iff.mpr ?_
  simp only [millisecondUp, millisecondDown,
    Int.fdiv_eq_ediv_of_nonneg _ (show (0 : Int) ≤ 1000000 by decide)] at passed reached
  omega

/-- After a tick that is not early the deadline is again at most a period ahead, if that is a reading. -/
theorem next?_of_le (missed : ticker.missed = .delay) (passed : ticker.deadline ≤ now)
    (last : now.after ticker.period ≤ Instant.last) :
    ∃ deadline, ticker.next? now = some deadline ∧ deadline ≤ now.after ticker.period := by
  have sooner : ticker.deadline.after ticker.period ≤ now.after ticker.period := by
    have order := Instant.le_iff.mp passed
    refine Instant.le_iff.mpr ?_
    simp only [Instant.after]
    omega
  have fromDeadline := Instant.add?_eq_some.mpr ⟨rfl, Instant.le_trans sooner last⟩
  have fromNow := Instant.add?_eq_some.mpr ⟨rfl, last⟩
  by_cases late : ticker.deadline.after tolerance < now
  · refine ⟨now.after ticker.period, ?_, Instant.le_refl _⟩
    simp [next?, late, missed, fromNow]
  · refine ⟨ticker.deadline.after ticker.period, ?_, sooner⟩
    simp [next?, late, fromDeadline]

theorem runDue_of_ahead (reached : wheel.reached ≤ millisecondDown now)
    (ahead : ticker.Ahead now) (last : now.after ticker.period ≤ Instant.last) (tries : Nat) :
    ∃ ticks next, ticker.runDue wheel now tries = (ticks, some next) ∧ next.Ahead now ∧
      next.period = ticker.period := by
  induction tries generalizing ticker with
  | zero => exact ⟨0, ticker, rfl, ahead, rfl⟩
  | succ tries inductionHypothesis =>
    by_cases due : ticker.isDue wheel = true
    · obtain ⟨deadline, next, bound⟩ :=
        next?_of_le ahead.missed (deadline_le_of_isDue reached due) last
      have aheadAfter : { ticker with deadline := deadline }.Ahead now := ⟨ahead.missed, bound⟩
      obtain ⟨ticks, rest, ran, aheadRest, period⟩ := inductionHypothesis aheadAfter last
      refine ⟨ticks + 1, rest, ?_, aheadRest, period⟩
      simp [runDue, due, next, ran]
    · exact ⟨0, ticker, by simp [runDue, due], ahead, rfl⟩

end Ticker

namespace Task

variable {task : Task} {period : Duration} {wheel : Wheel} {now later : Instant}

/-- Does what is due at a reading and counts the ticks. -/
def work (wheel : Wheel) (now : Instant) (done : Nat × Task) : Nat × Task :=
  (done.1 + (done.2.run wheel now).1, (done.2.run wheel now).2)

/-- A task that waits for a deadline of its period. -/
def IsWaiting (period : Duration) (now : Instant) (task : Task) : Prop :=
  ∃ ticker, task.phase = .waiting ticker ∧ ticker.Ahead now ∧ ticker.period = period.max shortestPeriod

theorem IsWaiting.isFinished (waits : task.IsWaiting period now) : task.isFinished = false := by
  obtain ⟨ticker, phase, -⟩ := waits
  simp [Task.isFinished, phase]

theorem start_isWaiting (name : String) (tag : Log.Tag) (fits : Fits period now) :
    (start name tag period now).IsWaiting period now := by
  have added := Instant.add?_eq_some.mpr ⟨rfl, fits.le_last⟩
  have kept : now.after (period.max shortestPeriod) ≤ Ticker.lastDeadline := fits
  refine ⟨⟨.delay, period.max shortestPeriod, now.after (period.max shortestPeriod),
    Nat.le_max_right _ _⟩, ?_, ⟨rfl, Instant.le_refl _⟩, rfl⟩
  simp [start, ticker?, added, kept]

/-- A task whose first deadline cannot be kept has failed from the start. -/
theorem start_failed (name : String) (tag : Log.Tag) (unfit : ¬ Fits period now) :
    (start name tag period now).phase = .failed := by
  have noTicker : ticker? period now = none := by
    unfold ticker?
    simp only
    split
    · rfl
    · rename_i deadline added
      obtain ⟨rfl, -⟩ := Instant.add?_eq_some.mp added
      exact if_neg unfit
  simp [start, noTicker]

/-- One reading of the clock does not end a task as long as the next deadline can be kept. -/
theorem IsWaiting.run (waits : task.IsWaiting period now)
    (reached : wheel.reached ≤ millisecondDown later) (order : now ≤ later) (fits : Fits period later) :
    (task.run wheel later).2.IsWaiting period later := by
  obtain ⟨ticker, phase, ahead, periodic⟩ := waits
  have last : later.after ticker.period ≤ Instant.last := periodic ▸ fits.le_last
  obtain ⟨ticks, next, ran, aheadNext, same⟩ :=
    Ticker.runDue_of_ahead reached (ahead.mono order) last
      ((wheel.reached - millisecondDown ticker.deadline).toNat + 1)
  refine ⟨next, ?_, aheadNext, same.trans periodic⟩
  simp [Task.run, phase, Ticker.run, ran]

theorem IsWaiting.isFinished_pass (waits : task.IsWaiting period now)
    (reached : wheel.reached ≤ millisecondDown now) {readings : List Instant}
    (ordered : (now :: readings).Pairwise (· ≤ ·)) (fits : ∀ reading ∈ readings, Fits period reading)
    (ticks : Nat) : (wheel.pass work readings (ticks, task)).2.isFinished = false := by
  induction readings generalizing wheel task now ticks with
  | nil => exact waits.isFinished
  | cons later rest inductionHypothesis =>
    obtain ⟨first, ordered⟩ := List.pairwise_cons.mp ordered
    have order : now ≤ later := first later List.mem_cons_self
    have turned := Wheel.turn_reached reached order
    have moved := waits.run turned order (fits later List.mem_cons_self)
    apply inductionHypothesis moved turned ordered
    intro reading present
    exact fits reading (List.mem_cons_of_mem _ present)

/-- A task that has failed stays so and does nothing. -/
theorem pass_of_failed (failed : task.phase = .failed) (wheel : Wheel) (readings : List Instant)
    (ticks : Nat) : wheel.pass work readings (ticks, task) = (ticks, task) := by
  induction readings generalizing wheel with
  | nil => rfl
  | cons now rest inductionHypothesis =>
    have idle : work (wheel.turn now) now (ticks, task) = (ticks, task) := by
      simp [work, Task.run, failed]
    rw [Wheel.pass, idle, inductionHypothesis]

end Task

/-- Only its own run moves the current task of a sweeper. -/
theorem Sweepers.current_run (sweepers : Sweepers) (wheel : Wheel) (now : Instant) :
    (sweepers.run wheel now).2.current = sweepers.current.map fun task => (task.run wheel now).2 := by
  unfold run
  cases sweepers.current with
  | none => rfl
  | some task => rfl

end Dashboard.Background

namespace Dashboard

open Background (Wheel Task Fits)

theorem Cache.Service.sweepMany_sweepers {α : Type} (service : Cache.Service α) (now : Instant)
    (times : Nat) : (service.sweepMany now times).1.sweepers = service.sweepers := by
  induction times with
  | zero => rfl
  | succ times inductionHypothesis => exact inductionHypothesis

theorem RateLimit.Service.sweepMany_sweepers (service : RateLimit.Service) (now : Instant)
    (times : Nat) : (service.sweepMany now times).1.sweepers = service.sweepers := by
  induction times with
  | zero => rfl
  | succ times inductionHypothesis => exact inductionHypothesis

theorem Cache.Service.current_run {α : Type} (wheel : Wheel) (now : Instant)
    (service : Cache.Service α) :
    (service.run wheel now).1.sweepers.current =
      service.sweepers.current.map fun task => (task.run wheel now).2 := by
  rw [run, sweepMany_sweepers]
  exact service.sweepers.current_run wheel now

theorem RateLimit.Service.current_run (wheel : Wheel) (now : Instant) (service : RateLimit.Service) :
    (service.run wheel now).1.sweepers.current =
      service.sweepers.current.map fun task => (task.run wheel now).2 := by
  rw [run, sweepMany_sweepers]
  exact service.sweepers.current_run wheel now

namespace Background

/-- Where a state has a task that runs by itself, the task does what it would do alone. -/
theorem current_pass {σ : Type} {act : Wheel → Instant → σ → σ} (current : σ → Option Task)
    (commutes : ∀ wheel now state,
      current (act wheel now state) = (current state).map fun task => (task.run wheel now).2)
    {state : σ} {task : Task} (spawned : current state = some task) (wheel : Wheel)
    (readings : List Instant) :
    current (wheel.pass act readings state) =
      some (wheel.pass Task.work readings (0, task)).2 := by
  have alone : ∀ wheel now (done : Nat × Task),
      some (Task.work wheel now done).2 = (some done.2).map fun task => (task.run wheel now).2 :=
    fun _ _ _ => rfl
  rw [Wheel.pass_view current commutes, spawned]
  exact (Wheel.pass_view (fun done => some done.2) alone wheel readings (0, task)).symm

theorem isFinished_of_fits (name : String) (tag : Log.Tag) {period : Duration} {start : Instant}
    {readings : List Instant} (ordered : (start :: readings).Pairwise (· ≤ ·))
    (fits : ∀ reading ∈ start :: readings, Fits period reading) :
    ((Wheel.start start).pass Task.work readings (0, .start name tag period start)).2.isFinished =
      false := by
  have waits := Task.start_isWaiting name tag (fits start List.mem_cons_self)
  apply waits.isFinished_pass (Int.le_refl _) ordered
  intro reading present
  exact fits reading (List.mem_cons_of_mem _ present)

theorem isFinished_of_not_fits (name : String) (tag : Log.Tag) {period : Duration} {start : Instant}
    (unfit : ¬ Fits period start) (readings : List Instant) :
    ((Wheel.start start).pass Task.work readings (0, .start name tag period start)).1 = 0 ∧
      ((Wheel.start start).pass Task.work readings (0, .start name tag period start)).2.isFinished =
        true := by
  have failed := Task.start_failed name tag unfit
  rw [Task.pass_of_failed failed]
  exact ⟨rfl, by simp [Task.isFinished, failed]⟩

/-- A task of any period, and the sweepers of the cache and of the limiter are such tasks, goes on as long
as the readings of the clock leave room for one period more. If there is none at its start it is
finished at once, does no tick, and stays so. -/
theorem sweeper_isFinished {α : Type} (cache : Cache.Service α) (limiter : RateLimit.Service)
    (name : String) (tag : Log.Tag) (period : Duration) (start : Instant) (readings : List Instant)
    (ordered : (start :: readings).Pairwise (· ≤ ·)) :
    let task := (Wheel.start start).pass Task.work readings (0, .start name tag period start)
    let ofCache := (Wheel.start start).pass (fun wheel now service => (service.run wheel now).1)
      readings (cache.spawnSweeper start)
    let ofLimiter := (Wheel.start start).pass (fun wheel now service => (service.run wheel now).1)
      readings (limiter.spawnSweeper period start)
    let interval := cache.settings.sweepInterval
    ((∀ reading ∈ start :: readings, Fits period reading) → task.2.isFinished = false ∧
        ofLimiter.sweepers.current.map Task.isFinished = some false) ∧
      ((∀ reading ∈ start :: readings, Fits interval reading) →
        ofCache.sweepers.current.map Task.isFinished = some false) ∧
      (¬ Fits period start → task.1 = 0 ∧ task.2.isFinished = true ∧
        ofLimiter.sweepers.current.map Task.isFinished = some true) ∧
      (¬ Fits interval start → ofCache.sweepers.current.map Task.isFinished = some true) := by
  intro task ofCache ofLimiter interval
  have swept : ofCache.sweepers.current = some
      ((Wheel.start start).pass Task.work readings
        (0, .start "cache_sweeper" .cache interval start)).2 :=
    current_pass (fun service : Cache.Service α => service.sweepers.current)
      Cache.Service.current_run rfl _ _
  have limited : ofLimiter.sweepers.current = some
      ((Wheel.start start).pass Task.work readings
        (0, .start "ratelimit_sweeper" .rateLimit period start)).2 :=
    current_pass (fun service : RateLimit.Service => service.sweepers.current)
      RateLimit.Service.current_run rfl _ _
  rw [swept, limited, Option.map_some, Option.map_some]
  refine ⟨fun fits => ?_, fun fits => ?_, fun unfit => ?_, fun unfit => ?_⟩
  · exact ⟨isFinished_of_fits name tag ordered fits,
      congrArg some (isFinished_of_fits "ratelimit_sweeper" .rateLimit ordered fits)⟩
  · exact congrArg some (isFinished_of_fits "cache_sweeper" .cache ordered fits)
  · obtain ⟨ticks, finished⟩ := isFinished_of_not_fits name tag unfit readings
    exact ⟨ticks, finished,
      congrArg some (isFinished_of_not_fits "ratelimit_sweeper" .rateLimit unfit readings).2⟩
  · exact congrArg some (isFinished_of_not_fits "cache_sweeper" .cache unfit readings).2

/-- A sweep interval of 2^63 - 1 seconds, which a file of settings can hold, ends the sweeper of the cache
at its start; the hourly one of the limiter goes on beside it. -/
theorem sweeper_isFinished_longest_interval :
    ((Wheel.start ⟨1000000000000000⟩).pass (fun wheel now service => (service.run wheel now).1)
        [⟨1000001000000000⟩, ⟨1003600000000000⟩]
        ((Cache.Service.start ⟨.ofSeconds 300, .ofSeconds 0x7fffffffffffffff⟩ :
          Cache.Service Nat).spawnSweeper ⟨1000000000000000⟩)).sweepers.current.map Task.isFinished =
      some true ∧
    ((Wheel.start ⟨1000000000000000⟩).pass Task.work [⟨1000001000000000⟩, ⟨1003600000000000⟩]
        (0, .start "ratelimit_sweeper" .rateLimit (.ofSeconds 3600) ⟨1000000000000000⟩)).2.isFinished =
      false := by
  have lives := sweeper_isFinished
    (Cache.Service.start ⟨.ofSeconds 300, .ofSeconds 0x7fffffffffffffff⟩ : Cache.Service Nat)
    (.start 1.0 1.0) "ratelimit_sweeper" .rateLimit (.ofSeconds 3600) ⟨1000000000000000⟩
    [⟨1000001000000000⟩, ⟨1003600000000000⟩] (by decide)
  exact ⟨lives.2.2.2 (by decide), (lives.1 (by decide)).1⟩

end Background
end Dashboard
