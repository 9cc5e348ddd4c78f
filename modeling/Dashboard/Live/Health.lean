import Dashboard.Time.Instant

namespace Dashboard.Live

/-- After how much silence a client is pinged and given up, and how long a ping may go
unanswered. -/
structure HealthSettings where
  heartbeat : Duration
  idle : Duration
  pong : Duration
deriving DecidableEq, Repr

/-- The last sign of the client, and the ping that waits for an answer. -/
structure Health where
  settings : HealthSettings
  lastActivity : Instant
  lastPing : Option Instant
deriving DecidableEq, Repr

namespace Health

def start (settings : HealthSettings) (now : Instant) : Health := ⟨settings, now, none⟩

/-- Any message of the client also answers the ping. -/
def recordActivity (health : Health) (now : Instant) : Health :=
  { health with lastActivity := now, lastPing := none }

def recordPing (health : Health) (now : Instant) : Health := { health with lastPing := some now }

def silence (health : Health) (now : Instant) : Duration := now.since health.lastActivity

def isIdle (health : Health) (now : Instant) : Bool := health.settings.idle < health.silence now

def isPongOverdue (health : Health) (now : Instant) : Bool :=
  match health.lastPing with
  | some ping => health.settings.pong < now.since ping
  | none => false

def needsPing (health : Health) (now : Instant) : Bool :=
  health.settings.heartbeat < health.silence now && health.lastPing.isNone

inductive Verdict where
  | idle (seconds : Nat)
  | pongOverdue
  | ping
  | fine
deriving DecidableEq, Repr

/-- Silence is looked at first, then the outstanding ping, then the need for one. -/
def check (health : Health) (now : Instant) : Verdict :=
  if health.isIdle now then .idle (health.silence now).wholeSeconds
  else if health.isPongOverdue now then .pongOverdue
  else if health.needsPing now then .ping
  else .fine

end Health
end Dashboard.Live
