import Dashboard.Proofs.Background.Lifetime

/-! The course of a task among everything that can come between: the clock moves on, timers fire late or in
time, work panics, and the owner asks for the end while the task waits, works or has not even begun. A task
never does its work early, and not at all once it was stopped or has failed. -/

namespace Dashboard

namespace Instant

/-- The reading so many spans after another. -/
def afterTimes (start : Instant) (count : Nat) (span : Duration) : Instant :=
  start.after ⟨count * span.nanos⟩

theorem afterTimes_succ (start : Instant) (count : Nat) (span : Duration) :
    start.afterTimes (count + 1) span = (start.afterTimes count span).after span := by
  simp only [afterTimes, after, Nat.succ_mul, Instant.mk.injEq]
  omega

theorem afterTimes_one (start : Instant) (span : Duration) : start.afterTimes 1 span = start.after span := by
  simp [afterTimes]

theorem after_le_after {first second : Instant} (order : first ≤ second) (span : Duration) :
    first.after span ≤ second.after span := by
  have := le_iff.mp order
  refine le_iff.mpr ?_
  simp only [after]
  omega

theorem le_after (start : Instant) (span : Duration) : start ≤ start.after span := by
  refine le_iff.mpr ?_
  simp only [after]
  omega

end Instant

namespace Background

/-- How far the notice to stop has come. It is kept until the task asks for it, also when the task had begun
to wait for it and gave that up for a tick. -/
inductive Notice where
  | absent
  | stored
  | awaited
  | delivered
deriving DecidableEq, Repr

namespace Notice

def give : Notice → Notice
  | absent | stored => stored
  | awaited | delivered => delivered

/-- The task does not wait for the notice any longer. -/
def letGo : Notice → Notice
  | absent | awaited => absent
  | stored | delivered => stored

def isGiven : Notice → Bool
  | absent | awaited => false
  | stored | delivered => true

@[simp] theorem isGiven_give (notice : Notice) : notice.give.isGiven = true := by
  cases notice <;> rfl

@[simp] theorem isGiven_letGo (notice : Notice) : notice.letGo.isGiven = notice.isGiven := by
  cases notice <;> rfl

end Notice

inductive Stage where
  /-- Not run yet, so that its ticker is not set. -/
  | spawned
  /-- Waiting for the next tick or for the notice to stop, whichever it finds first. -/
  | waiting (ticker : Ticker)
  /-- About to do its work for a deadline that has passed. -/
  | working (deadline : Instant) (ticker : Ticker)
  | leaving
  | ended
  | failed

/-- Where a task is that waits for the clock, or has failed. -/
def Phase.stage : Phase → Stage
  | .waiting ticker => .waiting ticker
  | .failed => .failed

/-- How far the owner of a task has come with stopping it. -/
inductive Owner where
  | holding
  | joining
  | returned
deriving DecidableEq, Repr

/-- The work done once: for which deadline, which deadline was set then, when it was done, and whether it
panicked. -/
structure Tick where
  deadline : Instant
  next : Instant
  reading : Instant
  panicked : Bool

/-- A task, its clock and its owner, and the work done so far. -/
structure Course where
  period : Duration
  now : Instant
  wheel : Wheel
  stage : Stage
  notice : Notice
  owner : Owner
  ticks : List Tick

inductive Move where
  | advance (span : Duration)
  | turn
  | enter
  | askTicker
  | askNotice
  | work (panics : Bool)
  | leave
  | stop
  | join

namespace Course

def spawned (period : Duration) (now : Instant) : Course :=
  ⟨period, now, .start now, .spawned, .absent, .holding, []⟩

def isOver (course : Course) : Bool :=
  match course.stage with
  | .ended | .failed => true
  | _ => false

/-- The course after a move; a move that is not possible changes nothing. -/
def step (course : Course) : Move → Course
  | .advance span => { course with now := course.now.after span }
  | .turn => { course with wheel := course.wheel.turn course.now }
  | .enter =>
    match course.stage with
    | .spawned =>
      match Task.ticker? course.period course.now with
      | some ticker => { course with stage := .waiting ticker }
      | none => { course with stage := .failed }
    | _ => course
  | .askTicker =>
    match course.stage with
    | .waiting ticker =>
      if ticker.isDue course.wheel then
        match ticker.next? course.now with
        | some deadline =>
          { course with
            stage := .working ticker.deadline { ticker with deadline := deadline }
            notice := course.notice.letGo }
        | none => { course with stage := .failed, notice := course.notice.letGo }
      else course
    | _ => course
  | .askNotice =>
    match course.stage with
    | .waiting _ =>
      if course.notice.isGiven then { course with stage := .leaving, notice := .absent }
      else { course with notice := .awaited }
    | _ => course
  | .work panics =>
    match course.stage with
    | .working deadline ticker =>
      { course with
        stage := if panics then .failed else .waiting ticker
        ticks := course.ticks ++ [⟨deadline, ticker.deadline, course.now, panics⟩] }
    | _ => course
  | .leave =>
    match course.stage with
    | .leaving => { course with stage := .ended }
    | _ => course
  | .stop =>
    match course.owner with
    | .holding => { course with owner := .joining, notice := course.notice.give }
    | _ => course
  | .join =>
    match course.owner with
    | .joining => if course.isOver then { course with owner := .returned } else course
    | _ => course

def run (course : Course) (moves : List Move) : Course := moves.foldl step course

variable {course : Course} {period : Duration}

theorem run_cons (course : Course) (move : Move) (moves : List Move) :
    course.run (move :: moves) = (course.step move).run moves := rfl

theorem run_append (course : Course) (before after : List Move) :
    course.run (before ++ after) = (course.run before).run after := List.foldl_append

inductive Change (course : Course) : Course → Prop where
  | stay : Change course course
  | advance (span : Duration) : Change course { course with now := course.now.after span }
  | turn : Change course { course with wheel := course.wheel.turn course.now }
  | enter {ticker : Ticker} (spawned : course.stage = .spawned)
      (set : Task.ticker? course.period course.now = some ticker) :
      Change course { course with stage := .waiting ticker }
  | fail (going : course.isOver = false) (notice : Notice) :
      Change course { course with stage := .failed, notice := notice }
  | tick {ticker : Ticker} {deadline : Instant} (waits : course.stage = .waiting ticker)
      (due : ticker.isDue course.wheel = true) (next : ticker.next? course.now = some deadline) :
      Change course { course with
        stage := .working ticker.deadline { ticker with deadline := deadline }
        notice := course.notice.letGo }
  | hear {ticker : Ticker} (waits : course.stage = .waiting ticker) :
      Change course { course with stage := .leaving, notice := .absent }
  | listen {ticker : Ticker} (waits : course.stage = .waiting ticker)
      (silent : course.notice.isGiven = false) : Change course { course with notice := .awaited }
  | work {deadline : Instant} {ticker : Ticker} (works : course.stage = .working deadline ticker)
      (panics : Bool) :
      Change course { course with
        stage := if panics then .failed else .waiting ticker
        ticks := course.ticks ++ [⟨deadline, ticker.deadline, course.now, panics⟩] }
  | leave (leaves : course.stage = .leaving) : Change course { course with stage := .ended }
  | stop (holds : course.owner = .holding) :
      Change course { course with owner := .joining, notice := course.notice.give }
  | join (joins : course.owner = .joining) (ended : course.isOver = true) :
      Change course { course with owner := .returned }

theorem change_step (course : Course) (move : Move) : Change course (course.step move) := by
  cases move with
  | advance span => exact .advance span
  | turn => exact .turn
  | enter =>
    simp only [step]
    split
    · rename_i spawned
      split
      · rename_i ticker starts
        exact .enter spawned starts
      · exact .fail (by simp [isOver, spawned]) course.notice
    · exact .stay
  | askTicker =>
    simp only [step]
    split
    · rename_i ticker waits
      split
      · rename_i due
        split
        · rename_i deadline next
          exact .tick waits due next
        · exact .fail (by simp [isOver, waits]) course.notice.letGo
      · exact .stay
    · exact .stay
  | askNotice =>
    simp only [step]
    split
    · rename_i ticker waits
      split
      · exact .hear waits
      · rename_i silent
        exact .listen waits (by simpa using silent)
    · exact .stay
  | work panics =>
    simp only [step]
    split
    · rename_i deadline ticker works
      exact .work works panics
    · exact .stay
  | leave =>
    simp only [step]
    split
    · rename_i leaves
      exact .leave leaves
    · exact .stay
  | stop =>
    simp only [step]
    split
    · rename_i holds
      exact .stop holds
    · exact .stay
  | join =>
    simp only [step]
    split
    · rename_i joins
      split
      · rename_i ended
        exact .join joins ended
      · exact .stay
    · exact .stay

theorem Change.ticks {next : Course} (change : Change course next) : course.ticks <+: next.ticks := by
  cases change with
  | work => exact List.prefix_append _ _
  | stay | advance | turn | enter | fail | tick | hear | listen | leave | stop | join =>
    exact List.prefix_rfl

theorem ticks_run (course : Course) (moves : List Move) : course.ticks <+: (course.run moves).ticks := by
  induction moves generalizing course with
  | nil => exact List.prefix_rfl
  | cons move rest inductionHypothesis =>
    exact (course.change_step move).ticks.trans (inductionHypothesis (course.step move))

theorem Change.isOver {next : Course} (change : Change course next) (ended : course.isOver = true) :
    next.isOver = true ∧ next.ticks = course.ticks := by
  cases change with
  | stay | advance | turn | listen | stop | join => exact ⟨ended, rfl⟩
  | fail => exact ⟨rfl, rfl⟩
  | leave => exact ⟨rfl, rfl⟩
  | enter stage | tick stage | hear stage | work stage => simp [Course.isOver, stage] at ended

theorem isOver_run (ended : course.isOver = true) (moves : List Move) :
    (course.run moves).isOver = true ∧ (course.run moves).ticks = course.ticks := by
  induction moves generalizing course with
  | nil => exact ⟨ended, rfl⟩
  | cons move rest inductionHypothesis =>
    obtain ⟨still, same⟩ := (course.change_step move).isOver ended
    obtain ⟨later, others⟩ := inductionHypothesis still
    exact ⟨later, others.trans same⟩

/-- What holds of the end of a task at any time: its owner returns behind it, work that panics is its last, and
the notice to stop is there until it is taken. -/
structure Orderly (course : Course) : Prop where
  returned : course.owner = .returned → course.isOver = true
  panicked : (∃ tick ∈ course.ticks, tick.panicked = true) → course.isOver = true
  heard : course.owner = .joining →
    course.isOver = true ∨ course.stage = .leaving ∨ course.notice.isGiven = true

theorem Orderly.start (period : Duration) (now : Instant) : Orderly (spawned period now) where
  returned := nofun
  panicked := by simp [spawned]
  heard := nofun

/-- As long as a task is not over, its owner waits and none of its work has panicked. -/
theorem Orderly.of_going (orderly : Orderly course) (going : course.isOver = false) :
    course.owner ≠ .returned ∧ ¬ ∃ tick ∈ course.ticks, tick.panicked = true :=
  ⟨fun returned => Bool.false_ne_true (going.symm.trans (orderly.returned returned)),
    fun panicked => Bool.false_ne_true (going.symm.trans (orderly.panicked panicked))⟩

theorem Orderly.change (orderly : Orderly course) {next : Course} (change : Change course next) :
    Orderly next := by
  cases change with
  | stay | advance | turn => exact ⟨orderly.returned, orderly.panicked, orderly.heard⟩
  | fail | leave => exact ⟨fun _ => rfl, fun _ => rfl, fun _ => .inl rfl⟩
  | stop holds =>
    exact ⟨nofun, orderly.panicked, fun _ => .inr (.inr (Notice.isGiven_give _))⟩
  | join joins ended => exact ⟨fun _ => ended, orderly.panicked, nofun⟩
  | enter spawned set =>
    have going : course.isOver = false := by simp [Course.isOver, spawned]
    obtain ⟨unreturned, unharmed⟩ := orderly.of_going going
    refine ⟨fun returned => absurd returned unreturned, fun panicked => absurd panicked unharmed, ?_⟩
    refine fun joins => .inr (.inr ?_)
    simpa [going, spawned] using orderly.heard joins
  | tick waits due next =>
    have going : course.isOver = false := by simp [Course.isOver, waits]
    obtain ⟨unreturned, unharmed⟩ := orderly.of_going going
    refine ⟨fun returned => absurd returned unreturned, fun panicked => absurd panicked unharmed, ?_⟩
    refine fun joins => .inr (.inr ?_)
    simpa [going, waits] using orderly.heard joins
  | hear waits =>
    have going : course.isOver = false := by simp [Course.isOver, waits]
    obtain ⟨unreturned, unharmed⟩ := orderly.of_going going
    exact ⟨fun returned => absurd returned unreturned, fun panicked => absurd panicked unharmed,
      fun _ => .inr (.inl rfl)⟩
  | listen waits silent =>
    have going : course.isOver = false := by simp [Course.isOver, waits]
    refine ⟨orderly.returned, orderly.panicked, fun joins => ?_⟩
    simpa [going, waits, silent] using orderly.heard joins
  | work works panics =>
    have going : course.isOver = false := by simp [Course.isOver, works]
    obtain ⟨unreturned, unharmed⟩ := orderly.of_going going
    refine ⟨fun returned => absurd returned unreturned, ?_, fun joins => ?_⟩
    · rintro ⟨tick, member, panicked⟩
      obtain before | last := List.mem_append.mp member
      · exact absurd ⟨tick, before, panicked⟩ unharmed
      · obtain rfl := List.mem_singleton.mp last
        simp only at panicked
        simp [Course.isOver, panicked]
    · refine .inr (.inr ?_)
      simpa [going, works] using orderly.heard joins

theorem Orderly.run (orderly : Orderly course) (moves : List Move) : Orderly (course.run moves) := by
  induction moves generalizing course with
  | nil => exact orderly
  | cons move rest inductionHypothesis =>
    exact inductionHypothesis (orderly.change (course.change_step move))

theorem Change.owner {next : Course} (change : Change course next) (returned : course.owner = .returned) :
    next.owner = .returned := by
  cases change with
  | stop holds => cases returned.symm.trans holds
  | join => rfl
  | stay | advance | turn | enter | fail | tick | hear | listen | work | leave => exact returned

theorem owner_run (returned : course.owner = .returned) (moves : List Move) :
    (course.run moves).owner = .returned := by
  induction moves generalizing course with
  | nil => exact returned
  | cons move rest inductionHypothesis =>
    exact inductionHypothesis ((course.change_step move).owner returned)

/-- Once a task is asked to end, it needs only be run to the next choice, which may find the notice, for its
owner to return. -/
theorem Orderly.returns (orderly : Orderly course) (asked : course.owner ≠ .holding) (panics : Bool) :
    (course.run [.enter, .work panics, .askNotice, .leave, .join]).owner = .returned := by
  cases owner : course.owner with
  | holding => exact absurd owner asked
  | returned => exact owner_run owner _
  | joining =>
    have heard := orderly.heard owner
    cases stage : course.stage with
    | spawned =>
      have given : course.notice.isGiven = true := by simpa [Course.isOver, stage] using heard
      cases set : Task.ticker? course.period course.now <;>
        simp [Course.run, Course.step, Course.isOver, stage, owner, given, set]
    | waiting ticker =>
      have given : course.notice.isGiven = true := by simpa [Course.isOver, stage] using heard
      simp [Course.run, Course.step, Course.isOver, stage, owner, given]
    | working deadline ticker =>
      have given : course.notice.isGiven = true := by simpa [Course.isOver, stage] using heard
      cases panics <;> simp [Course.run, Course.step, Course.isOver, stage, owner, given]
    | leaving => simp [Course.run, Course.step, Course.isOver, stage, owner]
    | ended => simp [Course.run, Course.step, Course.isOver, stage, owner]
    | failed => simp [Course.run, Course.step, Course.isOver, stage, owner]

end Course

namespace Ticker

variable {ticker : Ticker} {now deadline : Instant}

/-- After a tick that is not early the next one is a period later, unless that is beyond the last reading of
the clock. -/
theorem le_next? (passed : ticker.deadline ≤ now) (next : ticker.next? now = some deadline)
    (kept : ticker.deadline.after ticker.period ≤ Instant.last) :
    ticker.deadline.after ticker.period ≤ deadline := by
  have sooner := Instant.after_le_after passed ticker.period
  have fromDeadline := Instant.add?_eq_some.mpr ⟨rfl, kept⟩
  rw [next?] at next
  split at next
  · split at next
    · obtain ⟨rfl, -⟩ := Instant.add?_eq_some.mp next
      exact Instant.le_refl _
    · obtain ⟨rfl, -⟩ := Instant.add?_eq_some.mp next
      exact sooner
  · rw [fromDeadline] at next
    obtain rfl := Option.some.inj next
    exact Instant.le_refl _

theorem of_ticker? {period : Duration} (set : Task.ticker? period now = some ticker) :
    ticker.period = period.max Task.shortestPeriod ∧
      ticker.deadline = now.after (period.max Task.shortestPeriod) := by
  rw [Task.ticker?] at set
  split at set
  · cases set
  · rename_i deadline added
    split at set
    · obtain rfl := Option.some.inj set
      exact ⟨rfl, (Instant.add?_eq_some.mp added).1⟩
    · cases set

end Ticker

namespace Course

variable {course next : Course} {base : Instant}

/-- The period that the ticker of a task has. -/
def pace (course : Course) : Duration := course.period.max Task.shortestPeriod

theorem Change.pace (change : Change course next) : next.pace = course.pace := by
  cases change <;> rfl

/-- The ticker of a task has its pace, and is not early; each time it sets the next deadline a period later,
unless that is beyond the last reading of the clock. -/
structure Regular (course : Course) : Prop where
  reached : course.wheel.reached ≤ millisecondDown course.now
  waits : ∀ ticker, course.stage = .waiting ticker → ticker.period = course.pace
  works : ∀ deadline ticker, course.stage = .working deadline ticker →
    ticker.period = course.pace ∧ deadline ≤ course.now ∧
      (deadline.after course.pace ≤ Instant.last → deadline.after course.pace ≤ ticker.deadline)
  done : ∀ tick ∈ course.ticks, tick.deadline ≤ tick.reading ∧
    (tick.deadline.after course.pace ≤ Instant.last → tick.deadline.after course.pace ≤ tick.next)

theorem Regular.start (period : Duration) (now : Instant) : Regular (spawned period now) where
  reached := Int.le_refl _
  waits := nofun
  works := nofun
  done := nofun

theorem Regular.change (regular : Regular course) (change : Change course next) : Regular next := by
  cases change with
  | stay | stop | join | listen => exact ⟨regular.reached, regular.waits, regular.works, regular.done⟩
  | fail | hear | leave =>
    refine ⟨regular.reached, ?_, ?_, regular.done⟩
    · rintro _ ⟨⟩
    · rintro _ _ ⟨⟩
  | advance span =>
    have later := Instant.le_after course.now span
    have unturned : course.wheel.reached ≤ millisecondDown (course.now.after span) := by
      have turned := Wheel.turn_reached regular.reached later
      simp only [Wheel.turn] at turned
      omega
    refine ⟨unturned, regular.waits, fun deadline ticker works => ?_, regular.done⟩
    obtain ⟨period, passed, paced⟩ := regular.works deadline ticker works
    exact ⟨period, Instant.le_trans passed later, paced⟩
  | turn =>
    exact ⟨Wheel.turn_reached regular.reached (Instant.le_refl _), regular.waits, regular.works,
      regular.done⟩
  | enter spawned set =>
    refine ⟨regular.reached, ?_, ?_, regular.done⟩
    · rintro ticker ⟨rfl⟩
      exact (Ticker.of_ticker? set).1
    · rintro _ _ ⟨⟩
  | @tick ticker deadline waits due next =>
    have passed := Ticker.deadline_le_of_isDue regular.reached due
    have period := regular.waits ticker waits
    refine ⟨regular.reached, ?_, ?_, regular.done⟩
    · rintro _ ⟨⟩
    · rintro _ _ ⟨rfl, rfl⟩
      exact ⟨period, passed, fun kept => period ▸ Ticker.le_next? passed next (period ▸ kept)⟩
  | @work deadline ticker works panics =>
    obtain ⟨period, passed, paced⟩ := regular.works deadline ticker works
    refine ⟨regular.reached, fun other waits => ?_, fun _ _ other => ?_, ?_⟩
    · cases panics with
      | true => cases waits
      | false =>
        cases waits
        exact period
    · cases panics <;> cases other
    · exact List.forall_mem_append.mpr
        ⟨regular.done, List.forall_mem_singleton.mpr ⟨passed, paced⟩⟩

theorem Regular.run (regular : Regular course) (moves : List Move) : Regular (course.run moves) := by
  induction moves generalizing course with
  | nil => exact regular
  | cons move rest inductionHypothesis =>
    exact inductionHypothesis (regular.change (course.change_step move))

/-- Each time the next deadline was at least a period after the one that had passed. -/
def KeepsPace (course : Course) : Prop :=
  ∀ tick ∈ course.ticks, tick.deadline.after course.pace ≤ tick.next

/-- The work of a task is done, and the next deadline is set, as many periods after a reading as there are
deadlines. -/
structure Paced (base : Instant) (course : Course) : Prop where
  started : base ≤ course.now
  fresh : course.stage = .spawned → course.ticks = []
  waits : ∀ ticker, course.stage = .waiting ticker →
    base.afterTimes (course.ticks.length + 1) course.pace ≤ ticker.deadline
  works : ∀ deadline ticker, course.stage = .working deadline ticker →
    base.afterTimes (course.ticks.length + 1) course.pace ≤ deadline
  done : ∀ place tick, course.ticks[place]? = some tick →
    base.afterTimes (place + 1) course.pace ≤ tick.reading

theorem Paced.start (period : Duration) (now : Instant) : Paced now (spawned period now) where
  started := Instant.le_refl now
  fresh _ := rfl
  waits := nofun
  works := nofun
  done := nofun

theorem Paced.change (paced : Paced base course) (regular : Regular course) (change : Change course next)
    (keepsPace : next.KeepsPace) : Paced base next := by
  cases change with
  | stay | turn | stop | join | listen =>
    exact ⟨paced.started, paced.fresh, paced.waits, paced.works, paced.done⟩
  | fail | hear | leave => exact ⟨paced.started, nofun, nofun, nofun, paced.done⟩
  | advance span =>
    exact ⟨Instant.le_trans paced.started (Instant.le_after _ _), paced.fresh, paced.waits, paced.works,
      paced.done⟩
  | enter spawned set =>
    refine ⟨paced.started, nofun, ?_, nofun, paced.done⟩
    rintro ticker ⟨rfl⟩
    change base.afterTimes (course.ticks.length + 1) course.pace ≤ _
    rw [paced.fresh spawned, (Ticker.of_ticker? set).2, List.length_nil, Nat.zero_add,
      Instant.afterTimes_one]
    exact Instant.after_le_after paced.started _
  | tick waits due next =>
    refine ⟨paced.started, nofun, nofun, ?_, paced.done⟩
    rintro _ _ ⟨rfl, rfl⟩
    exact paced.waits _ waits
  | @work deadline ticker works panics =>
    have reached := paced.works deadline ticker works
    have next := keepsPace ⟨deadline, ticker.deadline, course.now, panics⟩ (by simp)
    refine ⟨paced.started, ?_, fun other waits => ?_, fun _ _ other => ?_, fun place tick found => ?_⟩
    · cases panics <;> nofun
    · cases panics with
      | true => cases waits
      | false =>
        cases waits
        simp only [List.length_append, List.length_singleton]
        rw [Instant.afterTimes_succ]
        exact Instant.le_trans (Instant.after_le_after reached _) next
    · cases panics <;> cases other
    · rw [List.getElem?_append] at found
      split at found
      · exact paced.done place tick found
      · rename_i behind
        rw [List.getElem?_singleton] at found
        split at found
        · rename_i last
          obtain rfl := Option.some.inj found
          obtain rfl : place = course.ticks.length := by omega
          exact Instant.le_trans reached (regular.works deadline ticker works).2.1
        · cases found

theorem pace_run (course : Course) (moves : List Move) : (course.run moves).pace = course.pace := by
  induction moves generalizing course with
  | nil => rfl
  | cons move rest inductionHypothesis =>
    exact (inductionHypothesis (course.step move)).trans (course.change_step move).pace

theorem KeepsPace.of_run {moves : List Move} (keepsPace : (course.run moves).KeepsPace) :
    course.KeepsPace := by
  intro tick member
  rw [← course.pace_run moves]
  exact keepsPace tick ((course.ticks_run moves).subset member)

theorem Paced.run (paced : Paced base course) (regular : Regular course) {moves : List Move}
    (keepsPace : (course.run moves).KeepsPace) : Paced base (course.run moves) := by
  induction moves generalizing course with
  | nil => exact paced
  | cons move rest inductionHypothesis =>
    have change := course.change_step move
    exact inductionHypothesis (paced.change regular change (KeepsPace.of_run keepsPace))
      (regular.change change) keepsPace

theorem exists_moves_of_runDue {ticker : Ticker} (waits : course.stage = .waiting ticker) (tries : Nat) :
    ∃ moves, (course.run moves).now = course.now ∧ (course.run moves).wheel = course.wheel ∧
      (course.run moves).ticks.length =
        course.ticks.length + (ticker.runDue course.wheel course.now tries).1 ∧
      (course.run moves).stage =
        ((ticker.runDue course.wheel course.now tries).2.elim .failed .waiting) := by
  induction tries generalizing course ticker with
  | zero => exact ⟨[], rfl, rfl, rfl, waits⟩
  | succ tries inductionHypothesis =>
    by_cases due : ticker.isDue course.wheel = true
    · cases next : ticker.next? course.now with
      | none =>
        refine ⟨[.askTicker], ?_⟩
        simp [Course.run, step, waits, due, next, Ticker.runDue]
      | some deadline =>
        have worked : ((course.step .askTicker).step (.work false)).stage =
            .waiting { ticker with deadline := deadline } := by
          simp [step, waits, due, next]
        obtain ⟨moves, now, wheel, ticks, stage⟩ := inductionHypothesis worked
        refine ⟨.askTicker :: .work false :: moves, ?_⟩
        simp only [run_cons, now, wheel, ticks, stage]
        simp [step, waits, due, next, Ticker.runDue]
        omega
    · exact ⟨[], by simp [Course.run, waits, due, Ticker.runDue]⟩

theorem exists_moves_of_run {task : Task} (same : course.stage = task.phase.stage) :
    ∃ moves, (course.run moves).now = course.now ∧ (course.run moves).wheel = course.wheel ∧
      (course.run moves).ticks.length =
        course.ticks.length + (task.run course.wheel course.now).1 ∧
      (course.run moves).stage = (task.run course.wheel course.now).2.phase.stage := by
  cases phase : task.phase with
  | failed =>
    refine ⟨[], ?_⟩
    simp [Course.run, Task.run, phase, same]
  | waiting ticker =>
    rw [phase] at same
    obtain ⟨moves, now, wheel, ticks, stage⟩ := exists_moves_of_runDue same
      ((course.wheel.reached - millisecondDown ticker.deadline).toNat + 1)
    refine ⟨moves, now, wheel, ?_, ?_⟩
    · rw [ticks]
      simp only [Task.run, phase, Ticker.run]
      split <;> rename_i outcome <;> simp [outcome]
    · rw [stage]
      simp only [Task.run, phase, Ticker.run]
      split <;> rename_i outcome <;> simp [outcome, Phase.stage]

theorem exists_moves_of_pass {task : Task} (same : course.stage = task.phase.stage)
    {readings : List Instant} (ordered : (course.now :: readings).Pairwise (· ≤ ·)) :
    ∃ moves, (course.run moves).ticks.length =
        (course.wheel.pass Task.work readings (course.ticks.length, task)).1 ∧
      (course.run moves).stage =
        (course.wheel.pass Task.work readings (course.ticks.length, task)).2.phase.stage := by
  induction readings generalizing course task with
  | nil => exact ⟨[], rfl, same⟩
  | cons now rest inductionHypothesis =>
    obtain ⟨first, ordered⟩ := List.pairwise_cons.mp ordered
    -- the clock goes on to the reading, the wheel follows, and then the task does what is due
    have reached : course.now.after (now.since course.now) = now := by
      have order := Instant.le_iff.mp (first now List.mem_cons_self)
      cases now
      simp only [Instant.after, Instant.since, Instant.mk.injEq] at order ⊢
      omega
    have turned : ((course.step (.advance (now.since course.now))).step .turn) =
        { course with now := now, wheel := course.wheel.turn now } := by
      simp only [step, reached]
    generalize later : { course with now := now, wheel := course.wheel.turn now } = there at turned
    have stage : there.stage = task.phase.stage := by rw [← later]; exact same
    obtain ⟨moves, now', wheel, ticks, worked⟩ := exists_moves_of_run stage
    have order : ((there.run moves).now :: rest).Pairwise (· ≤ ·) := by
      rw [now', ← later]
      exact ordered
    obtain ⟨more, count, final⟩ := inductionHypothesis worked order
    refine ⟨.advance (now.since course.now) :: .turn :: (moves ++ more), ?_, ?_⟩
    · rw [run_cons, run_cons, turned, run_append, count, ticks, wheel, ← later]
      rfl
    · rw [run_cons, run_cons, turned, run_append, final, ticks, wheel, ← later]
      rfl

/-- A task that does at every reading what is due then takes one of these courses. -/
theorem exists_course_of_task (name : String) (tag : Log.Tag) (period : Duration) {start : Instant}
    {readings : List Instant} (ordered : (start :: readings).Pairwise (· ≤ ·)) :
    let done := (Wheel.start start).pass Task.work readings (0, .start name tag period start)
    ∃ moves, ((spawned period start).run moves).ticks.length = done.1 ∧
      ((spawned period start).run moves).stage = done.2.phase.stage := by
  intro done
  have entered : ((spawned period start).step .enter).stage =
      (Task.start name tag period start).phase.stage := by
    simp only [step, spawned, Task.start]
    cases Task.ticker? period start <;> rfl
  have fresh : ((spawned period start).step .enter).now = start ∧
      ((spawned period start).step .enter).wheel = .start start ∧
      ((spawned period start).step .enter).ticks = [] := by
    simp only [step, spawned]
    cases Task.ticker? period start <;> exact ⟨rfl, rfl, rfl⟩
  obtain ⟨now, wheel, ticks⟩ := fresh
  rw [← now] at ordered
  obtain ⟨moves, count, stage⟩ := exists_moves_of_pass entered ordered
  rw [wheel, ticks] at count stage
  exact ⟨.enter :: moves, count, stage⟩

/-- The work of a task is done for the k-th time no sooner than k periods after the task was spawned, provided
that each new deadline is at least a period after the one that has passed; it is so unless that would be beyond
the last reading of the clock, and no tick is early. Whoever stops a task returns only when it is over, and
once that, or work that panicked, has happened, no more work is done. Whatever the task is at when it is
stopped, the notice is not lost: it need only be run to its next choice for the owner to return. -/
theorem ticks_on_time (period : Duration) (start : Instant) (moves : List Move) :
    let course := (spawned period start).run moves
    let pace := period.max Task.shortestPeriod
    ((∀ tick ∈ course.ticks, tick.deadline.after pace ≤ tick.next) →
        ∀ place tick, course.ticks[place]? = some tick →
          start.after ⟨(place + 1) * pace.nanos⟩ ≤ tick.reading) ∧
      (∀ tick ∈ course.ticks, tick.deadline ≤ tick.reading ∧
        (tick.deadline.after pace ≤ Instant.last → tick.deadline.after pace ≤ tick.next)) ∧
      (course.owner = .returned → course.isOver = true) ∧
      (course.owner = .returned ∨ (∃ tick ∈ course.ticks, tick.panicked = true) →
        ∀ more, (course.run more).ticks = course.ticks) ∧
      (course.owner ≠ .holding →
        ∀ panics, (course.run [.enter, .work panics, .askNotice, .leave, .join]).owner = .returned) := by
  intro course pace
  have same : course.pace = pace := (spawned period start).pace_run moves
  have orderly : Orderly course := (Orderly.start period start).run moves
  have regular : Regular course := (Regular.start period start).run moves
  refine ⟨fun keepsPace => ?_, ?_, orderly.returned, ?_, orderly.returns⟩
  · have paced : Paced start course :=
      (Paced.start period start).run (Regular.start period start) (by rwa [KeepsPace, same])
    intro place tick found
    exact same ▸ paced.done place tick found
  · exact same ▸ regular.done
  · intro finished more
    have ended : course.isOver = true := finished.elim orderly.returned orderly.panicked
    exact (isOver_run ended more).2

/-- A task without a period gets one of a millisecond. It is late by nineteen of them when it is stopped while it
waits for the notice, finds the tick first, and then the notice. -/
theorem ticks_on_time_late_when_stopped :
    let course := (spawned .zero ⟨1000000000000000⟩).run
      [.enter, .askNotice, .advance (.ofMilliseconds 20), .turn, .stop, .askTicker, .work false,
        .askTicker, .askNotice, .leave, .join]
    course.ticks.map Tick.reading = [⟨1000000020000000⟩] ∧
      (∀ tick ∈ course.ticks, tick.deadline.after (.ofMilliseconds 1) ≤ tick.next) ∧
      (∀ place tick, course.ticks[place]? = some tick →
        Instant.after ⟨1000000000000000⟩ ⟨(place + 1) * 1000000⟩ ≤ tick.reading) ∧
      course.owner = .returned ∧ ∀ more, (course.run more).ticks = course.ticks := by
  intro course
  have onTime := ticks_on_time .zero ⟨1000000000000000⟩
    [.enter, .askNotice, .advance (.ofMilliseconds 20), .turn, .stop, .askTicker, .work false,
      .askTicker, .askNotice, .leave, .join]
  have keepsPace : ∀ tick ∈ course.ticks, tick.deadline.after (.ofMilliseconds 1) ≤ tick.next := by
    decide
  have returned : course.owner = .returned := by decide
  exact ⟨by decide, keepsPace, onTime.1 keepsPace, returned, onTime.2.2.2.1 (.inl returned)⟩

end Course
end Background
end Dashboard
