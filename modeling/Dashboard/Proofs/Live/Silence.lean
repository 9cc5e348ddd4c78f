import Dashboard.Live.Session
import Mathlib.Data.List.Chain

/-! A health check closes the connection of a silent client only. What it looks at, two readings of the
clock, is told here by the history of the connection: the last sign of life, and a ping that was sent
since. -/

namespace Dashboard.Live

/-- The readings of the clock in one health check, each taken when it is needed: for the silence, for the
outstanding ping, for the need of a ping, and when a ping has been sent. -/
structure Tick where
  idle : Instant
  overdue : Instant
  need : Instant
  sent : Instant
  idle_le_overdue : idle ≤ overdue
  overdue_le_need : overdue ≤ need
  need_le_sent : need ≤ sent

/-- What the health of a connection takes notice of. -/
inductive Moment where
  | activity (now : Instant)
  | tick (tick : Tick)

/-- What has happened between the two ends, as far as their health is concerned. -/
inductive Mark where
  | sign (now : Instant)
  | ping (now : Instant)

/-- The health of an open connection, and what has happened so far. -/
structure Watch where
  health : Health
  history : List Mark

namespace Watch

/-- A connection that is opened now, which counts as a sign of life. -/
def start (settings : HealthSettings) (now : Instant) : Watch := ⟨.start settings now, [.sign now]⟩

/-- The connection after a moment, unless a health check has closed it. -/
def step (watch : Watch) : Moment → Option Watch
  | .activity now => some ⟨watch.health.recordActivity now, watch.history ++ [.sign now]⟩
  | .tick tick =>
    if watch.health.isIdle tick.idle then none
    else if watch.health.isPongOverdue tick.overdue then none
    else if watch.health.needsPing tick.need then
      some ⟨watch.health.recordPing tick.sent, watch.history ++ [.ping tick.sent]⟩
    else some watch

def run (watch : Watch) (moments : List Moment) : Option Watch := moments.foldlM step watch

/-- What a session does is a moment of its watch: here it takes a message, and below it takes all of
its tests at one reading and sends its ping at a later one. -/
theorem step_activity_of_session (session : Session) (history : List Mark) (now : Instant)
    {message : WebSocket.Message} (open' : message ≠ .close) :
    (⟨session.health, history⟩ : Watch).step (.activity now) =
      some ⟨(session.hear now message).1.health, history ++ [.sign now]⟩ := by
  cases message with
  | close => exact absurd rfl open'
  | text | binary | ping | pong => rfl

theorem step_tick_of_session (session : Session) (history : List Mark) {now sent : Instant}
    (order : now ≤ sent) :
    (⟨session.health, history⟩ : Watch).step
        (.tick ⟨now, now, now, sent, Instant.le_refl now, Instant.le_refl now, order⟩) =
      match (session.react now .tick).2 with
      | .leave _ => none
      | .send outgoing => (session.afterSending sent outgoing).map fun next =>
          ⟨next.health, history ++ [.ping sent]⟩
      | .stay => some ⟨session.health, history⟩ := by
  simp only [step, Session.react, Session.check, Health.check]
  by_cases idle : session.health.isIdle now = true
  · simp [idle]
  · by_cases overdue : session.health.isPongOverdue now = true
    · simp [idle, overdue]
    · by_cases needed : session.health.needsPing now = true
      · simp [idle, overdue, needed, Session.afterSending]
      · simp [idle, overdue, needed]

end Watch

theorem since_le_since {first second : Instant} (order : first ≤ second) (start : Instant) :
    first.since start ≤ second.since start := by
  have := Instant.le_iff.mp order
  rw [Duration.le_iff, Instant.since_nanos, Instant.since_nanos]
  omega

/-- What has passed since a later reading comes on top of what had passed until then. -/
theorem add_lt_since {start middle finish : Instant} {early late : Duration}
    (before : early < middle.since start) (behind : late < finish.since middle) :
    early + late < finish.since start := by
  rw [Duration.lt_iff, Instant.since_nanos] at before behind ⊢
  change early.nanos + late.nanos < _
  omega

namespace Mark

def Alternate : Mark → Mark → Prop
  | .ping _, .ping _ => False
  | _, _ => True

theorem exists_sign_between {before between after : List Mark} {first second : Instant}
    (chain : (before ++ .ping first :: between ++ .ping second :: after).IsChain Alternate) :
    ∃ sign, .sign sign ∈ between := by
  rw [List.append_assoc, List.cons_append] at chain
  have behind := chain.right_of_append
  cases between with
  | nil =>
    rw [List.nil_append, List.isChain_cons_cons] at behind
    exact behind.1.elim
  | cons mark rest =>
    rw [List.cons_append, List.isChain_cons_cons] at behind
    cases mark with
    | sign now => exact ⟨now, List.mem_cons_self⟩
    | ping now => exact behind.1.elim

end Mark

namespace Watch

/-- The health of a connection is what its history says: the last sign of life, and the ping sent since, for
which there was reason. -/
structure Faithful (settings : HealthSettings) (watch : Watch) : Prop where
  configured : watch.health.settings = settings
  history : ∃ early, watch.history = early ++ .sign watch.health.lastActivity ::
    watch.health.lastPing.toList.map .ping
  reason : ∀ ping, watch.health.lastPing = some ping →
    settings.heartbeat < ping.since watch.health.lastActivity
  alternate : watch.history.IsChain Mark.Alternate

namespace Faithful

variable {settings : HealthSettings} {watch after : Watch}

theorem start (settings : HealthSettings) (now : Instant) : (start settings now).Faithful settings where
  configured := rfl
  history := ⟨[], rfl⟩
  reason ping outstanding := by cases outstanding
  alternate := List.isChain_singleton _

theorem activity (faithful : watch.Faithful settings) (now : Instant) :
    Faithful settings ⟨watch.health.recordActivity now, watch.history ++ [.sign now]⟩ where
  configured := faithful.configured
  history := ⟨watch.history, rfl⟩
  reason ping outstanding := by cases outstanding
  alternate := by
    refine List.isChain_append.mpr ⟨faithful.alternate, List.isChain_singleton _, ?_⟩
    rintro (sign | ping) _ _ ⟨rfl⟩
    · trivial
    · trivial

/-- A ping is sent when there is none outstanding. -/
theorem ping (faithful : watch.Faithful settings) (tick : Tick)
    (needed : watch.health.needsPing tick.need = true) :
    Faithful settings ⟨watch.health.recordPing tick.sent, watch.history ++ [.ping tick.sent]⟩ := by
  rw [Health.needsPing, Bool.and_eq_true, decide_eq_true_eq, Option.isNone_iff_eq_none,
    faithful.configured] at needed
  obtain ⟨silent, noPing⟩ := needed
  obtain ⟨early, history⟩ := faithful.history
  rw [noPing] at history
  constructor
  case configured => exact faithful.configured
  case history => exact ⟨early, by simp [history, Health.recordPing]⟩
  case reason =>
    rintro _ ⟨rfl⟩
    have longer := since_le_since tick.need_le_sent watch.health.lastActivity
    exact Nat.lt_of_lt_of_le silent longer
  case alternate =>
    refine List.isChain_append.mpr ⟨faithful.alternate, List.isChain_singleton _, ?_⟩
    rintro mark last _ ⟨rfl⟩
    obtain rfl : mark = .sign watch.health.lastActivity := by simpa [history, eq_comm] using last
    trivial

theorem step (faithful : watch.Faithful settings) {moment : Moment}
    (stepped : watch.step moment = some after) : after.Faithful settings := by
  cases moment with
  | activity now =>
    obtain rfl := Option.some.inj stepped
    exact faithful.activity now
  | tick tick =>
    rw [Watch.step] at stepped
    split at stepped
    · cases stepped
    · split at stepped
      · cases stepped
      · split at stepped
        · rename_i needed
          obtain rfl := Option.some.inj stepped
          exact faithful.ping tick needed
        · obtain rfl := Option.some.inj stepped
          exact faithful

theorem run (faithful : watch.Faithful settings) {moments : List Moment}
    (ran : watch.run moments = some after) : after.Faithful settings := by
  induction moments generalizing watch with
  | nil =>
    obtain rfl := Option.some.inj ran
    exact faithful
  | cons moment rest inductionHypothesis =>
    obtain ⟨next, stepped, others⟩ := Option.bind_eq_some_iff.mp ran
    exact inductionHypothesis (faithful.step stepped) others

theorem step_tick_eq_none (faithful : watch.Faithful settings) (tick : Tick) :
    watch.step (.tick tick) = none ↔
      settings.idle < tick.idle.since watch.health.lastActivity ∨
        ∃ ping ∈ watch.health.lastPing.toList, settings.pong < tick.overdue.since ping := by
  have idle : watch.health.isIdle tick.idle = true ↔
      settings.idle < tick.idle.since watch.health.lastActivity := by
    rw [Health.isIdle, decide_eq_true_eq, faithful.configured]
    rfl
  have overdue : watch.health.isPongOverdue tick.overdue = true ↔
      ∃ ping ∈ watch.health.lastPing.toList, settings.pong < tick.overdue.since ping := by
    rw [Health.isPongOverdue, faithful.configured]
    cases watch.health.lastPing with
    | none => simp
    | some ping => simp
  rw [← idle, ← overdue, Watch.step]
  split
  · simp [*]
  · split
    · simp [*]
    · split
      · simp [*]
      · simp [*]

end Faithful

/-- Health checks close silent clients only. As long as a connection is open, at most one ping has been sent
since the last sign of life, and that one after more than a heartbeat of silence. A check closes the
connection exactly if the silence is longer than allowed or that ping has waited too long, so never
within both the allowed silence and the time from a heartbeat to an overdue answer. Between any two
pings there was a sign of life. -/
theorem closed_of_silence (settings : HealthSettings) (opened : Instant) (moments : List Moment)
    (watch : Watch) (ran : (start settings opened).run moments = some watch) :
    (∃ (early : List Mark) (sign : Instant) (pings : List Instant),
        watch.history = early ++ .sign sign :: pings.map .ping ∧
        pings.length ≤ 1 ∧ (∀ ping ∈ pings, settings.heartbeat < ping.since sign) ∧
        ∀ tick : Tick,
          (watch.step (.tick tick) = none ↔ settings.idle < tick.idle.since sign ∨
            ∃ ping ∈ pings, settings.pong < tick.overdue.since ping) ∧
          (tick.overdue.since sign ≤ settings.idle →
            tick.overdue.since sign ≤ settings.heartbeat + settings.pong →
            watch.step (.tick tick) ≠ none)) ∧
      ∀ before between after first second,
        watch.history = before ++ .ping first :: between ++ .ping second :: after →
        ∃ sign, .sign sign ∈ between := by
  have faithful := (Faithful.start settings opened).run ran
  obtain ⟨early, history⟩ := faithful.history
  have reason : ∀ ping ∈ watch.health.lastPing.toList,
      settings.heartbeat < ping.since watch.health.lastActivity :=
    fun ping outstanding => faithful.reason ping (Option.mem_toList.mp outstanding)
  refine ⟨⟨early, watch.health.lastActivity, watch.health.lastPing.toList, history, ?_, reason,
    fun tick => ⟨faithful.step_tick_eq_none tick, fun allowed answered closed => ?_⟩⟩, ?_⟩
  · exact Option.length_toList_le
  · rcases (faithful.step_tick_eq_none tick).mp closed with silent | ⟨ping, outstanding, overdue⟩
    · have longer := since_le_since tick.idle_le_overdue watch.health.lastActivity
      exact Nat.not_lt_of_le (Nat.le_trans longer allowed) silent
    · exact Nat.not_lt_of_le answered (add_lt_since (reason ping outstanding) overdue)
  · intro before between after first second split
    exact Mark.exists_sign_between (split ▸ faithful.alternate)

/-- A client that has answered its first ping and not its second is given up in the eleventh second after
that, though its silence would be allowed for longer. -/
theorem closed_of_silence_after_answer :
    let settings : HealthSettings := ⟨.ofSeconds 30, .ofSeconds 90, .ofSeconds 10⟩
    let tick (seconds : Int) : Tick :=
      ⟨⟨seconds * 1000000000⟩, ⟨seconds * 1000000000⟩, ⟨seconds * 1000000000⟩,
        ⟨seconds * 1000000000 + 5⟩, Instant.le_refl _, Instant.le_refl _,
        Instant.le_iff.mpr (Int.le_add_of_nonneg_right (by decide))⟩
    ∃ watch, (start settings ⟨0⟩).run [.tick (tick 30), .tick (tick 31), .tick (tick 41),
          .activity ⟨41000000007⟩, .tick (tick 72), .tick (tick 82)] = some watch ∧
      watch.step (.tick (tick 83)) = none ∧
      ∃ (early : List Mark) (sign : Instant) (pings : List Instant),
        watch.history = early ++ .sign sign :: pings.map .ping ∧
        pings.length ≤ 1 ∧ ∀ ping ∈ pings, settings.heartbeat < ping.since sign := by
  intro settings tick
  have ran : (start settings ⟨0⟩).run [.tick (tick 30), .tick (tick 31), .tick (tick 41),
      .activity ⟨41000000007⟩, .tick (tick 72), .tick (tick 82)] =
    some ⟨⟨settings, ⟨41000000007⟩, some ⟨72000000005⟩⟩, [.sign ⟨0⟩, .ping ⟨31000000005⟩,
      .sign ⟨41000000007⟩, .ping ⟨72000000005⟩]⟩ := rfl
  obtain ⟨⟨early, sign, pings, history, one, reason, -⟩, -⟩ :=
    closed_of_silence settings ⟨0⟩ _ _ ran
  exact ⟨_, ran, rfl, early, sign, pings, history, one, reason⟩

end Watch
end Dashboard.Live
