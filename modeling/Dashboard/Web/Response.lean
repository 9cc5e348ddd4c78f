import Dashboard.Json.Text
import Dashboard.Text.Utf8
import Dashboard.Web.App

namespace Dashboard.Web

open Json (Value)

structure Report where
  metrics : Metrics.Collector
  requests : Metrics.Requests
  limiter : RateLimit.Limiter Float
  hub : Hub.Counters
  cache : Cache.Store Value
  clock : Clock

def App.report (app : App) (clock : Clock) : Report :=
  ⟨app.metrics, app.requests, app.limiter.limiter, app.hub.loop.counters, app.cache.store, clock⟩

/-- What an answer consists of: text, or a report that the transport writes together with the figures
of the machine. -/
inductive Body where
  | text (content : String)
  | report (report : Report)

def Body.empty : Body := .text ""

structure Response where
  status : Nat
  headers : List (String × String)
  body : Body

namespace Response

def bare (status : Nat) : Response := ⟨status, [], .empty⟩

def plain (status : Nat) (content : String) : Response :=
  ⟨status, [("content-type", "text/plain; charset=utf-8")], .text content⟩

def jsonBody (status : Nat) (body : Body) : Response :=
  ⟨status, [("content-type", "application/json")], body⟩

/-- A JSON object with the given members, which keep their order. -/
def json (status : Nat) (members : List (String × Value)) : Response :=
  jsonBody status (.text (String.ofList ('\x7b' :: Json.writtenMembers members)))

/-- A refusal with a code for programs and a message for people. -/
def refusal (status : Nat) (code message : String) : Response :=
  json status [("error", .object [("code", .string code), ("message", .string message)])]

def withHeaders (response : Response) (headers : List (String × String)) : Response :=
  { response with
    headers := response.headers ++
      headers.filter fun header => !(response.headers.any fun present => present.1 == header.1) }

def measured (response : Response) : Response :=
  match response.body with
  | .text content =>
    response.withHeaders [("content-length", toString content.utf8ByteSize)]
  | .report _ => response

def beheaded (response : Response) : Response := { response with body := .empty }

end Response
end Dashboard.Web
