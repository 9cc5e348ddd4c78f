import Dashboard.Http.MediaType
import Dashboard.Http.Percent
import Dashboard.Metrics.System
import Dashboard.Startup
import Dashboard.Web.Route
import Dashboard.Web.Upgrade
import Dashboard.Web.WidgetData

namespace Dashboard.Web

open Json (Value Symbol)
open Http (Request)

/-- The outcome of a request: the answer, unless the work for it panicked, the parts of the program
after it, and the lines logged. -/
abbrev Outcome := Option Response × App × List Log.Record

def largestBody : Nat := 2 * 1024 * 1024

/-- The key of the cache for data of a widget. -/
def dataKey (widget key : String) : String := widget ++ "/" ++ key

/-- A name in a path that is not text. -/
def badName (name : String) : Response := .plain 400 ("Invalid URL: Invalid UTF-8 in `" ++ name ++ "`")

namespace App

def tellHealth (app : App) (time : WallTime) : Response :=
  .json 200 [("status", .string "ok"), ("uptime_seconds", .integer (app.uptimeSeconds time)),
    ("version", .string Startup.version)]

def widgetMembers (id : String) (widget : Metrics.Widget) : List (String × Value) :=
  [("widget_id", .string id), ("update_count", .integer widget.updates),
    ("error_count", .integer widget.errors),
    ("last_update_time", match widget.lastUpdate with
      | some time => .string time.text
      | none => .null),
    ("average_update_ms", .ofFloat widget.window.averageMilliseconds)] ++
    (widget.lastError.map fun message => ("last_error", Value.string message)).toList

/-- A report with the figures of the machine, in the order in which it is written. -/
def reportMembers (report : Report) (machine : Metrics.SystemSnapshot.Machine) :
    List (String × Value) :=
  [("system", .object ((Metrics.SystemSnapshot.take report.metrics report.clock).members machine)),
    ("widgets", .object (report.metrics.widgets.map fun (id, widget) =>
      (id, .object (widgetMembers id widget)))),
    ("api", .object [("total_requests", .integer report.requests.total),
      ("rate_limited", .integer report.requests.limited),
      ("average_latency_ms", .ofFloat report.requests.averageMilliseconds),
      ("uptime_seconds", .integer (report.requests.uptimeSeconds report.clock.reading)),
      ("rate_limiter", .object [("tracked_keys", .integer report.limiter.tracked),
        ("allowed", .integer report.limiter.allowed), ("denied", .integer report.limiter.denied),
        ("swept", .integer report.limiter.swept)])]),
    ("hub", .object [("total_registrations", .integer report.hub.registrations),
      ("active_subscribers", .integer report.hub.active),
      ("events_published", .integer report.hub.published),
      ("messages_delivered", .integer report.hub.delivered),
      ("evictions", .integer report.hub.evictions),
      ("unregistrations", .integer report.hub.unregistrations)]),
    ("cache", .object [("entries", .integer report.cache.size), ("hits", .integer report.cache.hits),
      ("misses", .integer report.cache.misses), ("expired_removed", .integer report.cache.expired)])]

def tellWidgetMetrics (app : App) (id : String) : Response :=
  match app.metrics.find? id with
  | some widget => .json 200 (widgetMembers id widget)
  | none => .refusal 404 "WIDGET_NOT_FOUND" "Widget not found"

/-- Reports to the metrics; there is no answer when they have no room for the widget. -/
def report? (app : App) (id : String) (change : Metrics.Collector → Metrics.Collector) :
    Option App × List Log.Record :=
  (if app.metrics.hasRoom id then some { app with metrics := change app.metrics } else none,
    app.metrics.trackingRecords id)

/-- Announces a change to the live connections. A failure only counts as an error of the widget. -/
def announce (app : App) (widget key : String) (action : Event.ChangeAction) (time : WallTime) :
    Option App × List Log.Record :=
  match app.hub.broadcast (some widget) (.change widget action (some key)) time with
  | (.ok _, hub, records) => (some { app with hub := hub }, records)
  | (.error error, hub, records) =>
    let (after, more) := { app with hub := hub }.report? widget (·.recordError widget error.text)
    (after, records ++ ⟨.webserver, .warning, "Could not announce change to " ++
      dataKey widget key ++ ": " ++ error.text⟩ :: more)

/-- The cache after data of a widget was stored, unless no expiry can be written down. -/
def stored? (app : App) (widget : String) (data : WidgetData) (now : Instant) :
    Option (Cache.Service Value) :=
  match data.ttlSeconds with
  | some seconds =>
    app.cache.setFor? (dataKey widget data.key) data.value (Duration.ofSeconds seconds) now
  | none => app.cache.set? (dataKey widget data.key) data.value now

/-- Stores data of a widget, which takes no time. -/
def save (app : App) (widget : String) (data : WidgetData) (clock : Clock) : Outcome :=
  if data.hasKey then
    match app.stored? widget data clock.reading with
    | none => (none, app, [])
    | some cache =>
      let app := { app with cache := cache }
      match app.announce widget data.key .updated clock.wall with
      | (none, records) => (none, app, records)
      | (some app, records) =>
        let (after, more) :=
          app.report? widget (·.recordUpdate widget Duration.zero clock.wall)
        match after with
        | none => (none, app, records ++ more)
        | some app =>
          (some (.json 201 [("key", .string data.key), ("status", .string "created"),
            ("widget_id", .string widget)]), app, records ++ more)
  else (some (.refusal 400 "MISSING_KEY" "Missing 'key' field"), app, [])

def load (app : App) (widget key : String) (now : Instant) : Response × App :=
  match app.cache.get (dataKey widget key) now with
  | (some value, cache) =>
    (.json 200 [("key", .string key), ("value", value), ("widget_id", .string widget)],
      { app with cache := cache })
  | (none, cache) =>
    (.refusal 404 "DATA_NOT_FOUND" "Widget data not found", { app with cache := cache })

def erase (app : App) (widget key : String) (time : WallTime) : Outcome :=
  let app := { app with cache := app.cache.delete (dataKey widget key) }
  match app.announce widget key .deleted time with
  | (none, records) => (none, app, records)
  | (some app, records) => (some (.bare 204), app, records)

/-- The data in the body of a request, or the answer that refuses it. -/
def dataOf (request : Request) : Except Response WidgetData :=
  match request.textHeader? "content-type" with
  | none => .error wrongType
  | some mediaType =>
    if !Http.MediaType.isJson mediaType then .error wrongType
    else if request.body.length > largestBody then
      .error (.plain 413 "Failed to buffer the request body: length limit exceeded")
    else
      let source := Symbol.ofBytes request.body
      match WidgetData.parse source with
      | .ok data => .ok data
      | .error fault =>
        .error (match fault.cause.category with
          | .misshapen => .plain 422
            ("Failed to deserialize the JSON body into the target type: " ++
              fault.textWithPath source)
          | _ => .plain 400
            ("Failed to parse the request body as JSON: " ++ fault.textWithPath source))
where
  wrongType : Response := .plain 415 "Expected request with `Content-Type: application/json`"

def perform (app : App) (request : Request) (clock : Clock) : Action → Outcome
  | .tellHealth => (some (app.tellHealth clock.wall), app, [])
  | .tellMetrics => (some (.jsonBody 200 (.report (app.report clock))), app, [])
  | .tellWidgetMetrics widget =>
    match Http.Percent.decode? widget with
    | none => (some (badName "id"), app, [])
    | some widget => (some (app.tellWidgetMetrics widget), app, [])
  | .save widget =>
    match Http.Percent.decode? widget with
    | none => (some (badName "id"), app, [])
    | some widget =>
      match dataOf request with
      | .error response => (some response, app, [])
      | .ok data => app.save widget data clock
  | .load widget key =>
    match Http.Percent.decode? widget, Http.Percent.decode? key with
    | none, _ => (some (badName "id"), app, [])
    | _, none => (some (badName "key"), app, [])
    | some widget, some key =>
      let (response, app) := app.load widget key clock.reading
      (some response, app, [])
  | .erase widget key =>
    match Http.Percent.decode? widget, Http.Percent.decode? key with
    | none, _ => (some (badName "id"), app, [])
    | _, none => (some (badName "key"), app, [])
    | some widget, some key => app.erase widget key clock.wall
  | .connect => (some (Upgrade.respond request), app, [])

end App
end Dashboard.Web
