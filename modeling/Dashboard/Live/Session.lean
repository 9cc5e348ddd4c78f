import Dashboard.Event.Basic
import Dashboard.Hub.Mailbox
import Dashboard.Live.ClientMessage
import Dashboard.Live.Health
import Dashboard.Log.Line
import Dashboard.WebSocket.Assembly

namespace Dashboard.Live

open WebSocket (Frame Fault)

/-- A connection that is served under the number of its subscription. -/
structure Session where
  id : Hub.Id
  health : Health
  sent : Nat
deriving DecidableEq, Repr

inductive Signal where
  | event (event : Event)
  /-- The hub has removed the subscription, and its queue has been read to the end. -/
  | queueClosed
  | message (message : WebSocket.Message)
  | fault (fault : Fault)
  | tick

inductive Outgoing where
  | event (event : Event)
  | reply (reply : Reply)
  | ping
  | close

def Outgoing.frame : Outgoing → Frame
  | .event content => .ofText content.text
  | .reply content => .ofText content.text
  | .ping => .whole .ping []
  | .close => .whole .close []

inductive Reaction where
  | send (outgoing : Outgoing)
  | stay
  | leave (records : List Log.Record)

namespace Session

def start (id : Hub.Id) (settings : HealthSettings) (now : Instant) : Session :=
  ⟨id, .start settings now, 0⟩

def record (session : Session) (level : Log.Level) (message : String) : Log.Record :=
  ⟨.webserver, level, "Connection " ++ toString session.id ++ message⟩

def startRecords (session : Session) : List Log.Record := [session.record .debug " started"]

def recordActivity (session : Session) (now : Instant) : Session :=
  { session with health := session.health.recordActivity now }

/-- What stands in front of the reason in a refusal of a client's text. -/
def refusalLead : String := "Invalid client message: "

/-- What is done about a message of the client; every message is a sign of life. -/
def hear (session : Session) (now : Instant) : WebSocket.Message → Session × Reaction
  | .text content =>
    (session.recordActivity now, .send (.reply (ClientMessage.reply refusalLead content)))
  | .close => (session, .leave [session.record .debug ": client closed"])
  | _ => (session.recordActivity now, .stay)

def check (session : Session) (now : Instant) : Reaction :=
  match session.health.check now with
  | .idle seconds =>
    .leave [session.record .warning (": idle timeout (" ++ toString seconds ++ "s)")]
  | .pongOverdue => .leave [session.record .warning ": pong timeout"]
  | .ping => .send .ping
  | .fine => .stay

def react (session : Session) (now : Instant) : Signal → Session × Reaction
  | .event event => (session, .send (.event event))
  | .queueClosed => (session, .send .close)
  | .message message => session.hear now message
  | .fault fault => (session, .leave [session.record .warning (": websocket error: " ++ fault.text)])
  | .tick => (session, session.check now)

/-- The session after something was sent, unless that was the last. -/
def afterSending (session : Session) (now : Instant) : Outgoing → Option Session
  | .event _ => some { session with sent := session.sent + 1 }
  | .reply _ => some session
  | .ping => some { session with health := session.health.recordPing now }
  | .close => none

/-- What is logged when something could not be sent, which ends the session. -/
def failureRecords (session : Session) (fault : Fault) : Outgoing → List Log.Record
  | .event _ => [session.record .warning (": failed to send event: " ++ fault.text)]
  | .reply _ => [session.record .warning (": Send error: " ++ fault.text)]
  | _ => []

/-- What is logged at the end; a client that was too slow is named so. -/
def closingRecord (session : Session) (state : Hub.State) : Log.Record :=
  let reason := if state = .evicted then " (evicted: client too slow)" else ""
  session.record .debug (" closed" ++ reason ++ " (sent=" ++ toString session.sent ++ ")")

end Session
end Dashboard.Live
