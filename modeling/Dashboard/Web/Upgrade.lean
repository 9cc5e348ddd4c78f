import Dashboard.Web.Response
import Dashboard.Http.Request

namespace Dashboard.Web.Upgrade

open Http (Request)

inductive Refusal where
  | method
  | connectionHeader
  | upgradeHeader
  | versionHeader
  | keyMissing
  | notUpgradable
deriving DecidableEq, Repr

namespace Refusal

def status : Refusal → Nat
  | method => 405
  | notUpgradable => 426
  | _ => 400

def text : Refusal → String
  | method => "Request method must be `GET`"
  | connectionHeader => "Connection header did not include 'upgrade'"
  | upgradeHeader => "`Upgrade` header did not include 'websocket'"
  | versionHeader => "`Sec-WebSocket-Version` header did not include '13'"
  | keyMissing => "`Sec-WebSocket-Key` header missing"
  | notUpgradable => "WebSocket request couldn't be upgraded since no upgrade state was present"

end Refusal

/-- Looks at a request for a live connection, one demand after another. -/
def refusal? (request : Request) : Option Refusal :=
  if request.method ≠ .get then some .method
  else if !request.headerHas "connection" "upgrade" then some .connectionHeader
  else if !request.headerIs "upgrade" "websocket" then some .upgradeHeader
  else if !request.headerIs "sec-websocket-version" "13" then some .versionHeader
  else if (request.header? "sec-websocket-key").isNone then some .keyMissing
  else if !request.canUpgrade then some .notUpgradable
  else none

def request (peer : Option String) : Request where
  method := .get
  path := "/api/ws".toList
  headers := [⟨"connection", "Upgrade".toList⟩, ⟨"upgrade", "websocket".toList⟩,
    ⟨"sec-websocket-version", "13".toList⟩,
    ⟨"sec-websocket-key", "dGhlIHNhbXBsZSBub25jZQ==".toList⟩]
  body := []
  peer := peer
  canUpgrade := true

/-- The answer that opens a connection; the transport adds the proof that it knows the protocol. -/
def accepted : Response :=
  ⟨101, [("connection", "upgrade"), ("upgrade", "websocket")], .empty⟩

/-- The answer to a request for a live connection. -/
def respond (request : Request) : Response :=
  match refusal? request with
  | some refusal => .plain refusal.status refusal.text
  | none => accepted

end Dashboard.Web.Upgrade
