import Dashboard.Live.Connection

namespace Dashboard

/-- A queue that gives no event stays as it is. -/
theorem Hub.Service.receive_eq_self {service : Service} {id : Id}
    (none : ∀ event, (service.receive id).1 ≠ .event event) : (service.receive id).2 = service := by
  unfold receive at none ⊢
  cases found : service.loop.mailbox? id with
  | none => rfl
  | some mailbox =>
    cases queued : mailbox.queue with
    | nil => simp [Mailbox.take, queued]
    | cons event rest => simp [found, Mailbox.take, queued] at none

/-- One look at a ticker: no tick, a tick, or a tick after which no deadline is left because a whole
period from now is beyond the last reading. -/
theorem Background.Ticker.runDue_one (ticker : Ticker) (wheel : Wheel) (now : Instant) :
    ticker.runDue wheel now 1 = (0, some ticker) ∨
      (∃ deadline, ticker.runDue wheel now 1 = (1, some { ticker with deadline := deadline })) ∨
      ticker.runDue wheel now 1 = (0, none) ∧ now.add? ticker.period = none := by
  by_cases due : ticker.isDue wheel = true
  · simp only [runDue, due, if_true]
    cases next : ticker.next? now with
    | some deadline => exact Or.inr (Or.inl ⟨deadline, rfl⟩)
    | none =>
      refine Or.inr (Or.inr ⟨rfl, ?_⟩)
      unfold next? at next
      split at next
      · rename_i passed
        cases missed : ticker.missed with
        | delay => simpa [missed] using next
        | catchUp =>
          simp only [missed, Instant.add?, ite_eq_right_iff, reduceCtorEq, imp_false,
            Instant.le_iff, Instant.lt_iff, Instant.after] at next passed ⊢
          omega
      · cases next
  · exact Or.inl (by simp [runDue, due])

end Dashboard

namespace Dashboard.Live

open WebSocket (Frame)
open Background (Wheel Ticker)

namespace Connection

/-- The text of the client that the next step takes, if it takes one. -/
def taken (connection : Connection) (hub : Hub.Service) : Option String :=
  match connection.server with
  | .waiting session =>
    match (hub.receive session.id).1, connection.inbox with
    | .pending, frame :: _ =>
      match connection.assembly.receive frame with
      | .ok (some (.text content), _) => some content
      | _ => none
    | _, _ => none
  | _ => none

/-- Whether the next step finds that nothing more will come from the hub. -/
def findsClosed (connection : Connection) (hub : Hub.Service) : Bool :=
  match connection.server with
  | .waiting session =>
    match (hub.receive session.id).1 with
    | .closed => true
    | _ => false
  | _ => false

/-- What the session has begun to send between two states of a connection. -/
def begun (connection after : Connection) : List Outgoing :=
  match connection.server, after.server with
  | .waiting _, .sending _ outgoing => [outgoing]
  | _, _ => []

/-- Why a waiting session begins to send. -/
inductive Cause (connection : Connection) (hub : Hub.Service) (session : Session) : Outgoing → Prop
  where
  | event {event : Event} (received : (hub.receive session.id).1 = .event event) :
      Cause connection hub session (.event event)
  | closed (received : (hub.receive session.id).1 = .closed) : Cause connection hub session .close
  | text {content : String} (pending : (hub.receive session.id).1 = .pending)
      (taken : connection.taken hub = some content) :
      Cause connection hub session (.reply (ClientMessage.reply Session.refusalLead content))
  | silence (pending : (hub.receive session.id).1 = .pending) (nothing : connection.taken hub = none) :
      Cause connection hub session .ping

/-- What nothing that the serving end does ever changes. -/
structure Keeps (connection after : Connection) : Prop where
  room : after.room = connection.room
  isCut : after.isCut = connection.isCut
  period : after.ticker.period = connection.ticker.period

/-- What a step of the serving end can be. -/
inductive Progress (connection : Connection) (hub : Hub.Service) (now : Instant) :
    Connection → Hub.Service → Prop where
  | begin {session next : Session} {outgoing : Outgoing} {after : Connection}
      (waiting : connection.server = .waiting session) (same : next.id = session.id)
      (cause : Cause connection hub session outgoing)
      (sending : after.server = .sending next outgoing)
      (unread : after.unread = connection.unread ++ [outgoing.frame])
      (keeps : Keeps connection after) :
      Progress connection hub now after (hub.receive session.id).2
  | stay {session : Session} {after : Connection} (next : Session) (pongs : List Frame)
      (waiting : connection.server = .waiting session) (same : next.id = session.id)
      (pending : (hub.receive session.id).1 = .pending) (nothing : connection.taken hub = none)
      (waits : after.server = .waiting next) (unread : after.unread = connection.unread ++ pongs)
      (pong : ∀ frame ∈ pongs, frame.opcode = .pong)
      (keeps : Keeps connection after) :
      Progress connection hub now after hub
  | leave {session : Session} {after : Connection}
      (waiting : connection.server = .waiting session)
      (pending : (hub.receive session.id).1 = .pending) (nothing : connection.taken hub = none)
      (gone : after.server = .gone) (unread : after.unread = fitting connection.room connection.unread)
      (keeps : Keeps connection after) :
      Progress connection hub now after ((hub.unregister session.id).2.1.detach session.id)
  | sent {session next : Session} {outgoing : Outgoing}
      (sending : connection.server = .sending session outgoing) (same : next.id = session.id)
      (flushed : connection.isFlushed = true) (goesOn : outgoing ≠ .close) :
      Progress connection hub now { connection with server := .waiting next } hub
  | finish {session : Session} {outgoing : Outgoing}
      (sending : connection.server = .sending session outgoing)
      (ends : connection.isCut = true ∨ connection.isFlushed = true) :
      Progress connection hub now connection.close
        ((hub.unregister session.id).2.1.detach session.id)
  /-- The health check has no further deadline, which the session does not survive. -/
  | overrun {session : Session} (waiting : connection.server = .waiting session)
      (pending : (hub.receive session.id).1 = .pending) (nothing : connection.taken hub = none)
      (late : now.add? connection.ticker.period = none) :
      Progress connection hub now connection.close (hub.detach session.id)

namespace Progress

variable {connection prepared : Connection} {hub : Hub.Service} {now : Instant} {session : Session}

/-- What the decision of a session about the client or about the time leads to. -/
theorem carryOut (waiting : connection.server = .waiting session)
    (pending : (hub.receive session.id).1 = .pending) (keeps : Keeps connection prepared)
    (unread : prepared.unread = connection.unread) {decision : Session × Reaction}
    (same : decision.1.id = session.id)
    (cause : ∀ outgoing, decision.2 = .send outgoing → Cause connection hub session outgoing)
    (nothing : (∀ outgoing, decision.2 ≠ .send outgoing) → connection.taken hub = none) :
    Progress connection hub now (prepared.carryOut hub decision).1
      (prepared.carryOut hub decision).2.1 := by
  have kept (server : Server) (unread : List Frame) :
      Keeps connection { prepared with server := server, unread := unread } :=
    ⟨keeps.room, keeps.isCut, keeps.period⟩
  obtain ⟨next, reaction⟩ := decision
  cases reaction with
  | send outgoing =>
    have unchanged : (hub.receive session.id).2 = hub :=
      Hub.Service.receive_eq_self (by simp [pending])
    have began : Progress connection hub now (prepared.carryOut hub (next, .send outgoing)).1
        (hub.receive session.id).2 :=
      .begin waiting same (cause outgoing rfl) rfl (congrArg (· ++ [outgoing.frame]) unread)
        (kept _ _)
    rwa [unchanged] at began
  | stay =>
    have quiet : connection.taken hub = none := nothing (by simp)
    exact .stay next [] waiting same pending quiet rfl (unread.trans (List.append_nil _).symm) nofun
      (kept _ _)
  | leave records =>
    have left : (prepared.carryOut hub (next, .leave records)).1.unread =
        fitting connection.room connection.unread := by
      rw [← keeps.room, ← unread]
      rfl
    have given : (prepared.carryOut hub (next, .leave records)).2.1 =
        (hub.unregister session.id).2.1.detach session.id := by
      rw [← same]
      rfl
    rw [given]
    exact .leave waiting pending (nothing (by simp)) rfl left
      ⟨keeps.room, keeps.isCut, keeps.period⟩

theorem takeFrame {frame : Frame} {rest : List Frame} (waiting : connection.server = .waiting session)
    (pending : (hub.receive session.id).1 = .pending) (next : connection.inbox = frame :: rest) :
    Progress connection hub now
      ({ connection with inbox := rest }.takeFrame session hub now frame).1
      ({ connection with inbox := rest }.takeFrame session hub now frame).2.1 := by
  have takes : connection.taken hub =
      match connection.assembly.receive frame with
      | .ok (some (.text content), _) => some content
      | _ => none := by
    simp [taken, waiting, pending, next]
  unfold Connection.takeFrame
  cases received : connection.assembly.receive frame with
  | error fault =>
    rw [received] at takes
    apply carryOut waiting pending
    · exact ⟨rfl, rfl, rfl⟩
    · rfl
    · rfl
    · simp [Session.react]
    · exact fun _ => takes
  | ok result =>
    obtain ⟨message, assembly⟩ := result
    rw [received] at takes
    cases message with
    | none =>
      exact .stay session [] waiting rfl pending takes waiting (List.append_nil _).symm nofun
        ⟨rfl, rfl, rfl⟩
    | some message =>
      cases message with
      | text content =>
        apply carryOut waiting pending
        · exact ⟨rfl, rfl, rfl⟩
        · rfl
        · rfl
        · rintro outgoing ⟨rfl⟩
          exact .text pending takes
        · exact fun silent => absurd rfl (silent _)
      | close =>
        apply carryOut waiting pending
        · exact ⟨rfl, rfl, rfl⟩
        · rfl
        · rfl
        · simp [Session.react, Session.hear]
        · exact fun _ => takes
      | ping payload =>
        exact .stay (session.recordActivity now) [Frame.whole .pong payload] waiting rfl pending takes
          rfl rfl (by simp [Frame.whole]) ⟨rfl, rfl, rfl⟩
      | binary | pong =>
        exact .stay (session.recordActivity now) [] waiting rfl pending takes rfl
          (List.append_nil _).symm nofun ⟨rfl, rfl, rfl⟩

theorem check (waiting : connection.server = .waiting session)
    (pending : (hub.receive session.id).1 = .pending) (nothing : connection.taken hub = none)
    (keeps : Keeps connection prepared) (unread : prepared.unread = connection.unread) :
    Progress connection hub now (prepared.carryOut hub (session.react now .tick)).1
      (prepared.carryOut hub (session.react now .tick)).2.1 := by
  refine carryOut waiting pending keeps unread rfl ?_ fun _ => nothing
  intro outgoing sends
  simp only [Session.react, Session.check] at sends
  cases verdict : session.health.check now <;> simp [verdict] at sends
  rw [← sends]
  exact .silence pending nothing

theorem stepWaiting {wheel : Wheel} {outcome : Outcome}
    (waiting : connection.server = .waiting session)
    (stepped : connection.stepWaiting session hub wheel now = some outcome) :
    Progress connection hub now outcome.1 outcome.2.1 := by
  unfold Connection.stepWaiting at stepped
  rcases received : hub.receive session.id with ⟨found, next⟩
  have first : (hub.receive session.id).1 = found := congrArg Prod.fst received
  have second : (hub.receive session.id).2 = next := congrArg Prod.snd received
  rw [received] at stepped
  cases found with
  | event event =>
    obtain rfl := Option.some.inj stepped
    rw [← second]
    exact .begin waiting rfl (.event first) rfl rfl ⟨rfl, rfl, rfl⟩
  | closed =>
    obtain rfl := Option.some.inj stepped
    rw [← second]
    exact .begin waiting rfl (.closed first) rfl rfl ⟨rfl, rfl, rfl⟩
  | pending =>
    obtain rfl : next = hub := by
      rw [← second]
      exact Hub.Service.receive_eq_self (by simp [first])
    cases came : connection.inbox with
    | cons frame rest =>
      rw [came] at stepped
      obtain rfl := Option.some.inj stepped
      exact takeFrame waiting first came
    | nil =>
      have nothing : connection.taken next = none := by
        simp [taken, waiting, first, came]
      simp only [came] at stepped
      split at stepped
      · obtain rfl := Option.some.inj stepped
        refine carryOut waiting first ⟨rfl, rfl, rfl⟩ rfl ?_ ?_ fun _ => nothing
        · rfl
        · simp [Session.react]
      · rcases connection.ticker.runDue_one wheel now with idle | ⟨deadline, ticked⟩ | ⟨ended, late⟩
        · simp [idle] at stepped
        · rw [ticked] at stepped
          obtain rfl := Option.some.inj stepped
          exact check waiting first nothing ⟨rfl, rfl, rfl⟩ rfl
        · rw [ended] at stepped
          obtain rfl := Option.some.inj stepped
          exact .overrun waiting first nothing late

theorem stepSending {outgoing : Outgoing} {outcome : Outcome}
    (sending : connection.server = .sending session outgoing)
    (stepped : connection.stepSending session outgoing hub now = some outcome) :
    Progress connection hub now outcome.1 outcome.2.1 := by
  unfold Connection.stepSending at stepped
  split at stepped
  · rename_i isCut
    obtain rfl := Option.some.inj stepped
    exact .finish sending (Or.inl isCut)
  · split at stepped
    · rename_i flushed
      cases outgoing with
      | close =>
        obtain rfl := Option.some.inj stepped
        exact .finish sending (Or.inr flushed)
      | event | reply | ping =>
        obtain rfl := Option.some.inj stepped
        exact .sent sending rfl flushed (by simp)
    · cases stepped

/-- Every step of the serving end is one of these. -/
theorem of_step {wheel : Wheel} {outcome : Outcome}
    (stepped : connection.step hub wheel now = some outcome) :
    Progress connection hub now outcome.1 outcome.2.1 := by
  cases server : connection.server with
  | waiting session => exact stepWaiting server (by simpa [step, server] using stepped)
  | sending session outgoing => exact stepSending server (by simpa [step, server] using stepped)
  | gone => simp [step, server] at stepped

end Progress

end Connection

end Dashboard.Live
