import Dashboard.Net.Address
import Dashboard.Web.App

namespace Dashboard.Web.Server

inductive BindFailure where
  | addressInUse
  | permissionDenied
  | other (reason : String)
deriving DecidableEq, Repr

/-- The message of a failed start, with advice where there is any. -/
def BindFailure.message (host port : String) (failure : BindFailure) : String :=
  let head := "Failed to bind to " ++ host ++ ":" ++ port ++ ": "
  match failure with
  | addressInUse =>
    head ++ "Address already in use\n\n" ++
      "Another dashhub instance (or another service) is using this port.\n" ++
      "Stop it or pick a different port with --port."
  | permissionDenied =>
    head ++ "Permission denied\n\n" ++ "Port " ++ port ++
      " requires elevated privileges on this system.\n" ++ "Consider using a port above 1024."
  | other reason => head ++ reason

inductive Ending where
  | failed (message : String)
  | running
  | stopped
deriving DecidableEq, Repr

def record (level : Log.Level) (message : String) : Log.Record := ⟨.webserver, level, message⟩

def startingRecord (host port : String) : Log.Record :=
  record .debug ("Starting webserver on " ++ host ++ ":" ++ port)

def listeningRecord (address : String) : Log.Record :=
  record .info ("Webserver listening on http://" ++ address ++ " (websocket: /api/ws)")

def shutdownRecords : List Log.Record :=
  [record .debug "Received shutdown signal, stopping webserver...",
    record .debug "Webserver stopped gracefully"]

/-- Starts listening and goes on until it is told to stop, if it is. The outcome of binding is the
address that is listened on. -/
def run (host port : String) (bound : Except BindFailure String) (isToldToStop : Bool) :
    Ending × List Log.Record :=
  match bound with
  | .error failure => (.failed (failure.message host port), [startingRecord host port])
  | .ok address =>
    let records := [startingRecord host port, listeningRecord address]
    if isToldToStop then (.stopped, records ++ shutdownRecords) else (.running, records)

/-- What a name stands for on a machine without a network. -/
def resolve? (host : String) : Option Net.Address :=
  if host = "localhost" then some (.v4 127 0 0 1) else Net.Address.parse? host.toList

/-- Whether an address is one of a machine without a network, or stands for all of them. -/
def isLocal : Net.Address → Bool
  | .v4 first second third fourth =>
    first.val == 127 || (first.val, second.val, third.val, fourth.val) == (0, 0, 0, 0)
  | .v6 groups _ =>
    let groups := groups.map Fin.val
    groups == List.replicate 8 0 || groups == List.replicate 7 0 ++ [1]

/-- The outcome of binding to a port of such a machine, which may be taken. -/
def bind (host port : String) (isTaken : Bool) : Except BindFailure String :=
  match resolve? host with
  | none => .error (.other "failed to lookup address information: Name or service not known")
  | some address =>
    if !isLocal address then .error (.other "Cannot assign requested address (os error 99)")
    else if isTaken then .error .addressInUse
    else
      let text := String.ofList address.text
      .ok ((match address with
        | .v4 .. => text
        | .v6 .. => "[" ++ text ++ "]") ++ ":" ++ port)

end Dashboard.Web.Server
