import Dashboard.Background.Ticker
import Dashboard.Hub.Service
import Dashboard.Live.Session

namespace Dashboard.Live

open WebSocket (Frame Fault Assembly)
open Background (Wheel Ticker)

inductive Server where
  | waiting (session : Session)
  | sending (session : Session) (outgoing : Outgoing)
  | gone

/-- The serving end, what is on the way between the ends, and whether the client has cut the
connection. -/
structure Connection where
  server : Server
  ticker : Ticker
  assembly : Assembly
  /-- How many unread bytes the way to the client holds. -/
  room : Nat
  /-- Frames from the client that have not been looked at. -/
  inbox : List Frame
  /-- Frames to the client that it has not read. -/
  unread : List Frame
  isCut : Bool

namespace Connection

/-- How often the health of a connection is checked. -/
def tickPeriod : Duration := Duration.ofSeconds 1

/-- The first check is due at once, and missed ones are made up. -/
def newTicker (now : Instant) : Ticker := ⟨.catchUp, tickPeriod, now, by decide⟩

def serve (session : Session) (room : Nat) (now : Instant) : Connection :=
  ⟨.waiting session, newTicker now, .empty, room, [], [], false⟩

/-- A connection that is closed right after it was opened. -/
def refuse (room : Nat) (now : Instant) : Connection :=
  ⟨.gone, newTicker now, .empty, room, [], [Outgoing.close.frame], false⟩

def isGone (connection : Connection) : Bool :=
  match connection.server with
  | .gone => true
  | _ => false

/-- Whether everything for the client is on its way. -/
def isFlushed (connection : Connection) : Bool :=
  Frame.totalSize connection.unread ≤ connection.room

/-- The frames that fit into so many bytes. -/
def fitting (room : Nat) : List Frame → List Frame
  | [] => []
  | frame :: rest => if frame.size ≤ room then frame :: fitting (room - frame.size) rest else []

/-- The serving end goes away; what is not on its way by then is lost. -/
def close (connection : Connection) : Connection :=
  { connection with
    server := .gone, inbox := [], unread := fitting connection.room connection.unread }

abbrev Outcome := Connection × Hub.Service × List Log.Record

/-- Ends a session: its subscription is given up. -/
def leave (connection : Connection) (session : Session) (hub : Hub.Service)
    (records : List Log.Record) : Outcome :=
  let (_, hub, more) := hub.unregister session.id
  (connection.close, hub.detach session.id,
    records ++ more ++ [session.closingRecord (hub.state session.id)])

def carryOut (connection : Connection) (hub : Hub.Service) (decision : Session × Reaction) :
    Outcome :=
  match decision with
  | (session, .stay) => ({ connection with server := .waiting session }, hub, [])
  | (session, .leave records) => connection.leave session hub records
  | (session, .send outgoing) =>
    ({ connection with
        server := .sending session outgoing
        unread := connection.unread ++ [outgoing.frame] }, hub, [])

/-- Looks at a frame of the client. A ping is answered without the session, which only hears of
it. -/
def takeFrame (connection : Connection) (session : Session) (hub : Hub.Service) (now : Instant)
    (frame : Frame) : Outcome :=
  match connection.assembly.receive frame with
  | .error fault => connection.carryOut hub (session.react now (.fault fault))
  | .ok (none, assembly) => ({ connection with assembly := assembly }, hub, [])
  | .ok (some message, assembly) =>
    let unread := match message with
      | .ping payload => connection.unread ++ [Frame.whole .pong payload]
      | _ => connection.unread
    { connection with assembly := assembly, unread := unread }.carryOut hub
      (session.react now (.message message))

/-- Why nothing more comes from a client that has cut the connection. -/
def cutFault (connection : Connection) : Fault :=
  if connection.isFlushed then .cutOff else .brokenPipe

/-- The next step of a waiting session, if there is anything to do: events come first, then frames
of the client, then the passing of time. -/
def stepWaiting (connection : Connection) (session : Session) (hub : Hub.Service) (wheel : Wheel)
    (now : Instant) : Option Outcome :=
  match hub.receive session.id with
  | (.event event, hub) => some (connection.carryOut hub (session.react now (.event event)))
  | (.closed, hub) => some (connection.carryOut hub (session.react now .queueClosed))
  | (.pending, hub) =>
    match connection.inbox with
    | frame :: rest => some ({ connection with inbox := rest }.takeFrame session hub now frame)
    | [] =>
      if connection.isCut then
        some (connection.carryOut hub (session.react now (.fault connection.cutFault)))
      else match connection.ticker.runDue wheel now 1 with
        | (0, some _) => none
        | (_, some ticker) =>
          some ({ connection with ticker := ticker }.carryOut hub (session.react now .tick))
        | (_, none) => some (connection.close, hub.detach session.id, [])

/-- The next step of a session that has something to send: it waits until all of it fits. -/
def stepSending (connection : Connection) (session : Session) (outgoing : Outgoing)
    (hub : Hub.Service) (now : Instant) : Option Outcome :=
  if connection.isCut then
    some (connection.leave session hub (session.failureRecords .brokenPipe outgoing))
  else if connection.isFlushed then
    match session.afterSending now outgoing with
    | some session => some ({ connection with server := .waiting session }, hub, [])
    | none => some (connection.leave session hub [])
  else none

/-- The next step of the serving end, if it has anything to do. -/
def step (connection : Connection) (hub : Hub.Service) (wheel : Wheel) (now : Instant) :
    Option Outcome :=
  match connection.server with
  | .waiting session => connection.stepWaiting session hub wheel now
  | .sending session outgoing => connection.stepSending session outgoing hub now
  | .gone => none

/-- Runs the serving end for at most so many steps. -/
def runSteps (wheel : Wheel) (now : Instant) : Nat → Connection → Hub.Service → Outcome
  | 0, connection, hub => (connection, hub, [])
  | bound + 1, connection, hub =>
    match connection.step hub wheel now with
    | none => (connection, hub, [])
    | some (connection, hub, records) =>
      let (connection, hub, more) := runSteps wheel now bound connection hub
      (connection, hub, records ++ more)

/-- More steps than the serving end has to do: two for every event, frame and tick, and a few for
the end. -/
def bound (connection : Connection) (hub : Hub.Service) (wheel : Wheel) : Nat :=
  match connection.server with
  | .waiting session | .sending session _ =>
    2 * ((hub.queued session.id).length + connection.inbox.length +
      (wheel.reached - Background.millisecondDown connection.ticker.deadline).toNat + 4)
  | .gone => 0

def run (connection : Connection) (hub : Hub.Service) (wheel : Wheel) (now : Instant) : Outcome :=
  runSteps wheel now (connection.bound hub wheel) connection hub

/-- What becomes of a frame that the client sends. -/
inductive Delivery where
  | delivered
  | refused
  /-- The way to the server is full. -/
  | stuck
deriving DecidableEq, Repr

def receive (connection : Connection) (frame : Frame) : Delivery × Connection :=
  match connection.server with
  | .gone => (.refused, connection)
  | .waiting _ => (.delivered, { connection with inbox := connection.inbox ++ [frame] })
  | .sending .. =>
    let size := (connection.inbox ++ [frame]).foldr (fun frame size => frame.maskedSize + size) 0
    if size ≤ connection.room then
      (.delivered, { connection with inbox := connection.inbox ++ [frame] })
    else (.stuck, connection)

/-- The client reads everything that is on its way, and what follows as that makes room, at most so
many times. -/
def readAll (wheel : Wheel) (now : Instant) :
    Nat → Connection → Hub.Service → List Frame × Outcome
  | 0, connection, hub => ([], connection, hub, [])
  | rounds + 1, connection, hub =>
    match connection.unread with
    | [] => ([], connection, hub, [])
    | frame :: rest =>
      let (connection, hub, records) := { connection with unread := [] }.run hub wheel now
      let (frames, connection, hub, more) := readAll wheel now rounds connection hub
      (frame :: rest ++ frames, connection, hub, records ++ more)

def read (connection : Connection) (hub : Hub.Service) (wheel : Wheel) (now : Instant) :
    List Frame × Outcome :=
  readAll wheel now (connection.bound hub wheel + 2) connection hub

def cut (connection : Connection) : Connection := { connection with isCut := true }

end Connection
end Dashboard.Live
