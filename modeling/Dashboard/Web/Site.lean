import Dashboard.Live.Connection
import Dashboard.Web.Router

namespace Dashboard.Web

open Http (Request)
open Live (Connection)
open Background (Wheel)

/-- Connections are numbered in the order in which they were opened. -/
structure Site where
  app : App
  connections : List (Nat × Connection)
  nextNumber : Nat

namespace Site

def ofApp (app : App) : Site := ⟨app, [], 0⟩

def find? (site : Site) (number : Nat) : Option Connection := site.connections.lookup number

/-- Puts a connection in the place of the one with its number. -/
def put (site : Site) (number : Nat) (connection : Connection) : Site :=
  { site with
    connections := site.connections.map fun entry =>
      if entry.1 = number then (number, connection) else entry }

/-- Forgets a connection whose serving end has gone and which the client has cut. -/
def tidy (site : Site) : Site :=
  { site with
    connections := site.connections.filter fun entry => !(entry.2.isGone && entry.2.isCut) }

/-- Serves a new connection with a subscription of its own; a stopped hub has none to give. -/
def serve (site : Site) (room : Nat) (now : Instant) : Connection × Site × List Log.Record :=
  match site.app.hub.subscribe with
  | (.ok id, hub, records) =>
    let session := Live.Session.start id site.app.settings.health now
    (.serve session room now, { site with app := { site.app with hub := hub } },
      records ++ session.startRecords)
  | (.error error, hub, records) =>
    (.refuse room now, { site with app := { site.app with hub := hub } },
      records ++ [⟨.webserver, .warning, "Rejecting websocket connection: " ++ error.text⟩])

/-- Handles a request for a live connection, whose way to the client holds so many bytes. If it is
opened, its number comes with the answer. -/
def connect (site : Site) (request : Request) (room : Nat) (clock : Clock) :
    (Option Response × Option Nat) × Site × List Log.Record :=
  let (response, app, records) := site.app.handle request clock
  let site := { site with app := app }
  match response with
  | some answer =>
    if answer.status = Upgrade.accepted.status then
      let (connection, site, more) := site.serve room clock.reading
      let number := site.nextNumber
      ((some answer, some number),
        { site with
          connections := site.connections ++ [(number, connection)], nextNumber := number + 1 },
        records ++ more)
    else ((some answer, none), site, records)
  | none => ((none, none), site, records)

/-- Runs the serving end of every connection until it waits. -/
def runConnections (wheel : Wheel) (now : Instant) :
    List (Nat × Connection) → Hub.Service → List (Nat × Connection) × Hub.Service × List Log.Record
  | [], hub => ([], hub, [])
  | (number, connection) :: rest, hub =>
    let (connection, hub, records) := connection.run hub wheel now
    let (rest, hub, more) := runConnections wheel now rest hub
    ((number, connection) :: rest, hub, records ++ more)

def settle (site : Site) (wheel : Wheel) (now : Instant) : Site × List Log.Record :=
  let (app, records) := site.app.runSweepers wheel now
  let (connections, hub, more) := runConnections wheel now site.connections app.hub
  ({ site with app := { app with hub := hub }, connections := connections }.tidy, records ++ more)

def send (site : Site) (number : Nat) (frame : WebSocket.Frame) : Connection.Delivery × Site :=
  match site.find? number with
  | none => (.refused, site)
  | some connection =>
    let (delivery, connection) := connection.receive frame
    (delivery, site.put number connection)

/-- A client reads everything that comes. The flag tells whether the serving end has gone. -/
def read (site : Site) (number : Nat) (wheel : Wheel) (now : Instant) :
    (List WebSocket.Frame × Bool) × Site × List Log.Record :=
  match site.find? number with
  | none => (([], true), site, [])
  | some connection =>
    let (frames, connection, hub, records) := connection.read site.app.hub wheel now
    ((frames, connection.isGone), { site with app := { site.app with hub := hub } }.put number connection,
      records)

def cut (site : Site) (number : Nat) : Site :=
  match site.find? number with
  | none => site
  | some connection => site.put number connection.cut

end Site
end Dashboard.Web
