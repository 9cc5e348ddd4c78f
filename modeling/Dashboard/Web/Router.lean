import Dashboard.Web.Handlers

namespace Dashboard.Web

open Http (Request Method)

/-- Scripts of any origin may read answers. -/
def openToAll : List (String × String) :=
  [("access-control-allow-origin", "*"),
    ("vary", "origin, access-control-request-method, access-control-request-headers")]

/-- What scripts of other origins may send, and for how many seconds they may count on it. -/
def preflightHeaders : List (String × String) :=
  [("access-control-allow-methods", "GET,POST,PUT,DELETE,OPTIONS"),
    ("access-control-allow-headers", "content-type,authorization"),
    ("access-control-max-age", "3600")]

def preflight : Response := (Response.bare 200).withHeaders (openToAll ++ preflightHeaders)

/-- The text of a request in a line of the log. -/
def requestText (request : Request) : String :=
  request.method.name ++ " " ++ String.ofList request.path

def originOf (request : Request) : RateLimit.Origin :=
  ⟨(request.textHeader? "x-forwarded-for").map String.ofList,
    (request.textHeader? "x-real-ip").map String.ofList, request.peer⟩

def actionOf (request : Request) : Option Action :=
  (Route.ofPath? request.path).bind (·.action? request.method)

namespace App

/-- Does what a request asks for, or refuses to. -/
def dispatch (app : App) (request : Request) (clock : Clock) : Outcome :=
  match Route.ofPath? request.path with
  | none => (some (.bare 404), app, [])
  | some route =>
    match route.action? request.method with
    | none => (some (.bare 405), app, [])
    | some action => app.perform request clock action

/-- Counts the answer to an admitted request. To answer takes no time on the clock. -/
def tracked (app : App) (request : Request) (clock : Clock) : Outcome :=
  match app.dispatch request clock with
  | (none, app, records) => (none, app, records)
  | (some response, app, records) =>
    (some response, { app with requests := app.requests.complete Duration.zero },
      records ++ [⟨.webserver, .verbose, requestText request ++ " -> " ++
        toString response.status ++ " (0ms)"⟩])

/-- The answer to a request that is refused for its rate. -/
def tooMany : Response := .plain 429 "Rate limit exceeded"

def admitted (app : App) (request : Request) (clock : Clock) : Outcome :=
  let app := { app with requests := app.requests.request }
  if app.limitsRequests then
    match app.limiter.allowRequest (originOf request) clock.reading with
    | (true, limiter, records) =>
      let (response, app, more) := { app with limiter := limiter }.tracked request clock
      (response, app, records ++ more)
    | (false, limiter, records) =>
      (some tooMany, { app with limiter := limiter, requests := app.requests.refuse },
        records ++ [⟨.webserver, .verbose, "429 for " ++ requestText request⟩])
  else app.tracked request clock

/-- Whether a request is a preflight that needs no admission. -/
def isPreflight (app : App) (request : Request) : Bool :=
  app.settings.corsEnabled && request.method == .options

/-- Opens the answers to scripts of other origins, if that is asked for. -/
def shared (app : App) (request : Request) (clock : Clock) : Outcome :=
  if app.isPreflight request then (some preflight, app, [])
  else
    let (response, after, records) := app.admitted request clock
    (if app.settings.corsEnabled then response.map (·.withHeaders openToAll) else response,
      after, records)

/-- An answer as it is sent: where a path is known but the method is not answered, it lists those
that are, and an answer to a request for the head has no body. -/
def finished (request : Request) (response : Response) : Response :=
  let response := match Route.ofPath? request.path with
    | some route =>
      if request.method ∈ route.methods then response
      else response.withHeaders [("allow", route.allowed)]
    | none => response
  let response := response.measured
  if request.method = .head then response.beheaded else response

def handle (app : App) (request : Request) (clock : Clock) : Outcome :=
  let (response, app, records) := app.shared request clock
  (response.map (finished request), app, records)

end App
end Dashboard.Web
