import Dashboard.Proofs.Cache.Lookup
import Dashboard.Proofs.Web.WidgetName
import Dashboard.Web.Router

namespace Dashboard.Web

open Cache.Store (leftAt)
open Http (Request)
open Json (Value)

/-- A change to the data of a widget: a value with its expiry, or none any more. -/
structure Write where
  widget : String
  key : String
  content : Option (Value × Instant)

namespace Write

/-- The name the data is stored under. -/
def name (write : Write) : String := dataKey write.widget write.key

/-- What the latest of the selected writes leaves at an instant. -/
def latest (writes : List Write) (isSelected : Write → Bool) (now : Instant) : Option Value :=
  (writes.filter isSelected).getLast?.bind fun write => leftAt write.content now

theorem latest_append (writes : List Write) (write : Write) (isSelected : Write → Bool)
    (now : Instant) :
    latest (writes ++ [write]) isSelected now =
      if isSelected write then leftAt write.content now else latest writes isSelected now := by
  by_cases selected : isSelected write = true
  · simp [latest, List.filter_append, selected]
  · simp [latest, List.filter_append, selected]

end Write

def WidgetData.lifetime (data : WidgetData) (standard : Duration) : Duration :=
  match data.ttlSeconds with
  | some seconds => Duration.ofSeconds seconds
  | none => standard

/-- A request, and the status of its answer. There is no answer when the work for it panicked. -/
structure Exchange where
  request : Request
  clock : Clock
  status : Option Nat

namespace Exchange

/-- The write that an action stands for. One that succeeds is answered 201 or 204; one without an
answer has changed the data all the same, unless there was no expiry for it. -/
def writeOf? (exchange : Exchange) (standard : Duration) : Action → Option Write
  | .save widget =>
    match Http.Percent.decode? widget, App.dataOf exchange.request with
    | some widget, .ok data =>
      if data.hasKey && exchange.status.all (· = 201) then
        (Cache.Store.expiry? exchange.clock.reading (data.lifetime standard)).map fun expiry =>
          ⟨widget, data.key, some (data.value, expiry)⟩
      else none
    | _, _ => none
  | .erase widget key =>
    match Http.Percent.decode? widget, Http.Percent.decode? key with
    | some widget, some key =>
      if exchange.status.all (· = 204) then some ⟨widget, key, none⟩ else none
    | _, _ => none
  | _ => none

/-- What a request has changed, where `standard` is how long data is kept usually. -/
def write? (exchange : Exchange) (standard : Duration) : Option Write :=
  (actionOf exchange.request).bind (exchange.writeOf? standard)

theorem write?_of_status {status : Nat} (created : status ≠ 201) (erased : status ≠ 204)
    (request : Request) (clock : Clock) (standard : Duration) :
    write? ⟨request, clock, some status⟩ standard = none := by
  cases asked : actionOf request with
  | none => simp [write?, asked]
  | some action =>
    cases action with
    | save widget =>
      simp only [write?, asked, Option.bind_some, writeOf?, Option.all_some, created, decide_false,
        Bool.and_false, Bool.false_eq_true, if_false]
      split <;> rfl
    | erase widget key =>
      simp only [write?, asked, Option.bind_some, writeOf?, Option.all_some, erased, decide_false,
        Bool.false_eq_true, if_false]
      split <;> rfl
    | tellHealth | tellMetrics | tellWidgetMetrics widget | load widget key | connect =>
      simp [write?, asked, writeOf?]

/-- No data is stored or erased under an empty key. -/
theorem key_ne_empty {exchange : Exchange} {standard : Duration} {write : Write}
    (wrote : exchange.write? standard = some write) : write.key ≠ "" := by
  obtain ⟨action, asked, writes⟩ := Option.bind_eq_some_iff.mp wrote
  obtain ⟨route, found, asks⟩ := Option.bind_eq_some_iff.mp asked
  cases action with
  | save widget =>
    simp only [writeOf?] at writes
    split at writes
    · rename_i widget data decoded body
      split at writes
      · rename_i accepted
        obtain ⟨expiry, -, rfl⟩ := Option.map_eq_some_iff.mp writes
        rintro blankKey
        simp [WidgetData.hasKey, show data.key = "" from blankKey, Text.trim] at accepted
      · cases writes
    · cases writes
  | erase widget key =>
    obtain rfl := Route.eq_widgetEntry_of_erase asks
    simp only [writeOf?] at writes
    split at writes
    · rename_i widgetName keyName widgetDecoded keyDecoded
      split at writes
      · cases writes
        rintro rfl
        exact Route.key_ne_nil found (Http.Percent.eq_nil_of_decode? keyDecoded)
      · cases writes
    · cases writes
  | tellHealth | tellMetrics | tellWidgetMetrics widget | load widget key | connect =>
    simp [writeOf?] at writes

end Exchange

/-- The work for a request changes the data as the given write does, and nothing else about it. With
room for the metrics it is answered if it writes. -/
structure Effect (before after : App) (status : Option Nat) (write : Option Write) : Prop where
  settings : after.cache.settings = before.cache.settings
  windowSize : after.metrics.windowSize = before.metrics.windowSize
  distinct : Association.Distinct before.cache.store.entries →
    Association.Distinct after.cache.store.entries
  values : ∀ name now, after.cache.store.valueAt name now =
    match write with
    | some write =>
      if write.name = name then leftAt write.content now else before.cache.store.valueAt name now
    | none => before.cache.store.valueAt name now
  answered : before.metrics.windowSize ≤ Metrics.Collector.largestWindow →
    write.isSome = true → status.isSome = true

namespace Effect

variable {before after : App} {status : Option Nat} {write : Option Write}

theorem silent (settings : after.cache.settings = before.cache.settings)
    (windowSize : after.metrics.windowSize = before.metrics.windowSize)
    (entries : after.cache.store.entries = before.cache.store.entries) :
    Effect before after status none where
  settings := settings
  windowSize := windowSize
  distinct distinct := entries.symm ▸ distinct
  values := Cache.Store.valueAt_of_entries entries
  answered _ wrote := by simp at wrote

theorem congr (effect : Effect before after status write) {first last : App}
    (firstCache : first.cache = before.cache) (firstMetrics : first.metrics = before.metrics)
    (lastCache : last.cache = after.cache) (lastMetrics : last.metrics = after.metrics) :
    Effect first last status write where
  settings := by rw [lastCache, firstCache, effect.settings]
  windowSize := by rw [lastMetrics, firstMetrics, effect.windowSize]
  distinct := by rw [lastCache, firstCache]; exact effect.distinct
  values name now := by rw [lastCache, firstCache]; exact effect.values name now
  answered := by rw [firstMetrics]; exact effect.answered

end Effect

namespace App

theorem report?_spec (app : App) {after : App} {id : String}
    {change : Metrics.Collector → Metrics.Collector}
    (keeps : ∀ collector, (change collector).windowSize = collector.windowSize)
    (reported : (app.report? id change).1 = some after) :
    after.cache = app.cache ∧ after.metrics.windowSize = app.metrics.windowSize := by
  by_cases room : app.metrics.hasRoom id = true
  · obtain rfl : { app with metrics := change app.metrics } = after := by
      simpa [report?, room] using reported
    exact ⟨rfl, keeps app.metrics⟩
  · simp [report?, room] at reported

theorem report?_isSome (app : App) (id : String) (change : Metrics.Collector → Metrics.Collector)
    (room : app.metrics.windowSize ≤ Metrics.Collector.largestWindow) :
    (app.report? id change).1.isSome = true := by
  simp [report?, Metrics.Collector.hasRoom, room]

theorem announce_spec (app : App) {after : App} {widget key : String} {action : Event.ChangeAction}
    {time : WallTime} (announced : (app.announce widget key action time).1 = some after) :
    after.cache = app.cache ∧ after.metrics.windowSize = app.metrics.windowSize := by
  simp only [announce] at announced
  split at announced
  · cases announced
    exact ⟨rfl, rfl⟩
  · rename_i error hub records broadcast
    have keeps (collector : Metrics.Collector) :
        (collector.recordError widget error.text).windowSize = collector.windowSize := rfl
    exact report?_spec { app with hub := hub } keeps announced

theorem announce_isSome (app : App) (widget key : String) (action : Event.ChangeAction)
    (time : WallTime) (room : app.metrics.windowSize ≤ Metrics.Collector.largestWindow) :
    (app.announce widget key action time).1.isSome = true := by
  simp only [announce]
  split
  · rfl
  · rename_i error hub records broadcast
    exact report?_isSome { app with hub := hub } widget (·.recordError widget error.text) room

theorem stored?_eq (app : App) (widget : String) (data : WidgetData) (now : Instant) :
    app.stored? widget data now =
      app.cache.setFor? (dataKey widget data.key) data.value
        (data.lifetime app.cache.settings.defaultTtl) now := by
  cases given : data.ttlSeconds <;> simp [stored?, WidgetData.lifetime, given, Cache.Service.set?]

/-- What follows the change of the store in the work for a write: the announcement and a report. -/
theorem save_of_stored {app : App} {widget : String} {data : WidgetData} {clock : Clock}
    {cache : Cache.Service Value} (key : data.hasKey = true)
    (stored : app.stored? widget data clock.reading = some cache) :
    (app.save widget data clock).2.1.cache = cache ∧
      (app.save widget data clock).2.1.metrics.windowSize = app.metrics.windowSize ∧
      ((app.save widget data clock).1.map Response.status).all (· = 201) = true ∧
      (app.metrics.windowSize ≤ Metrics.Collector.largestWindow →
        (app.save widget data clock).1.isSome = true) := by
  simp only [save, key, if_true, stored]
  split
  · rename_i records announced
    have announces := announce_isSome { app with cache := cache } widget data.key .updated clock.wall
    refine ⟨rfl, rfl, rfl, fun room => ?_⟩
    simpa [announced] using announces room
  · rename_i announcedApp records announced
    obtain ⟨sameCache, sameSize⟩ := announce_spec { app with cache := cache }
      (congrArg Prod.fst announced)
    split
    · rename_i unreported
      refine ⟨sameCache, sameSize, rfl, fun room => ?_⟩
      have reports := report?_isSome announcedApp widget
        (·.recordUpdate widget Duration.zero clock.wall) (sameSize ▸ room)
      simp [unreported] at reports
    · rename_i after reported
      have keeps (collector : Metrics.Collector) :
          (collector.recordUpdate widget Duration.zero clock.wall).windowSize =
            collector.windowSize := rfl
      obtain ⟨reportedCache, reportedSize⟩ := report?_spec announcedApp keeps reported
      exact ⟨reportedCache.trans sameCache, reportedSize.trans sameSize, rfl, fun _ => rfl⟩

theorem save_effect (app : App) (widget : String) (data : WidgetData) (clock : Clock) :
    Effect app (app.save widget data clock).2.1
      ((app.save widget data clock).1.map Response.status)
      (if data.hasKey && ((app.save widget data clock).1.map Response.status).all (· = 201) then
        (Cache.Store.expiry? clock.reading (data.lifetime app.cache.settings.defaultTtl)).map
          fun expiry => ⟨widget, data.key, some (data.value, expiry)⟩
      else none) := by
  by_cases key : data.hasKey = true
  · cases stored : app.stored? widget data clock.reading with
    | none =>
      have unbounded : Cache.Store.expiry? clock.reading
          (data.lifetime app.cache.settings.defaultTtl) = none := by
        rwa [stored?_eq, Cache.Service.setFor?_eq_none] at stored
      have outcome : app.save widget data clock = (none, app, []) := by
        simp [save, key, stored]
      rw [outcome, unbounded]
      simpa using Effect.silent rfl rfl rfl
    | some cache =>
      obtain ⟨sameCache, sameSize, status, answers⟩ := save_of_stored key stored
      rw [stored?_eq] at stored
      obtain ⟨expiry, expires, settings, entries⟩ := Cache.Service.setFor?_entries stored
      rw [key, status, expires]
      refine ⟨sameCache ▸ settings, sameSize, fun distinct => ?_, fun name now => ?_,
        fun room _ => ?_⟩
      · rw [sameCache, entries]
        exact distinct.put _ _
      · rw [sameCache]
        exact Cache.Store.valueAt_put entries name now
      · rw [Option.isSome_map]
        exact answers room
  · have outcome : app.save widget data clock =
        (some (.refusal 400 "MISSING_KEY" "Missing 'key' field"), app, []) := by
      simp [save, key]
    rw [outcome]
    simpa [key] using Effect.silent rfl rfl rfl

theorem erase_effect (app : App) (widget key : String) (time : WallTime) :
    Effect app (app.erase widget key time).2.1 ((app.erase widget key time).1.map Response.status)
      (if ((app.erase widget key time).1.map Response.status).all (· = 204) then
        some ⟨widget, key, none⟩
      else none) := by
  have erased : Effect app { app with cache := app.cache.delete (dataKey widget key) }
      (some 204) (some ⟨widget, key, none⟩) :=
    ⟨rfl, rfl, fun distinct => distinct.filter _,
      fun name now => Cache.Store.valueAt_delete app.cache.store (dataKey widget key) name now,
      fun _ _ => rfl⟩
  have announces := announce_isSome { app with cache := app.cache.delete (dataKey widget key) }
    widget key .deleted time
  cases announced : { app with cache := app.cache.delete (dataKey widget key) }.announce widget key
      .deleted time with
  | mk after? records =>
    cases after? with
    | none =>
      have outcome : app.erase widget key time =
          (none, { app with cache := app.cache.delete (dataKey widget key) }, records) := by
        simp [erase, announced]
      rw [outcome]
      refine ⟨erased.settings, erased.windowSize, erased.distinct, erased.values, fun room _ => ?_⟩
      simpa [announced] using announces room
    | some after =>
      have outcome : app.erase widget key time = (some (.bare 204), after, records) := by
        simp [erase, announced]
      obtain ⟨sameCache, sameSize⟩ := announce_spec
        { app with cache := app.cache.delete (dataKey widget key) } (congrArg Prod.fst announced)
      rw [outcome]
      exact ⟨sameCache ▸ erased.settings, sameSize.trans erased.windowSize,
        sameCache ▸ erased.distinct, sameCache ▸ erased.values, fun _ _ => rfl⟩

/-- The answer to a look-up, where `found?` is what the store holds. -/
def lookedUp (widget key : String) (found? : Option Value) : Response :=
  match found? with
  | some value =>
    .json 200 [("key", .string key), ("value", value), ("widget_id", .string widget)]
  | none => .refusal 404 "DATA_NOT_FOUND" "Widget data not found"

theorem load_eq (app : App) (widget key : String) (now : Instant) :
    app.load widget key now =
      (lookedUp widget key (app.cache.store.valueAt (dataKey widget key) now),
        { app with cache := (app.cache.get (dataKey widget key) now).2 }) := by
  rw [← Cache.Store.get_fst]
  simp only [load, Cache.Service.get]
  cases app.cache.store.get (dataKey widget key) now with
  | mk found? store => cases found? <;> rfl

theorem load_effect (app : App) (widget key : String) (now : Instant) (status : Option Nat) :
    Effect app (app.load widget key now).2 status none := by
  rw [load_eq]
  exact .silent rfl rfl (Cache.Store.get_entries app.cache.store (dataKey widget key) now)

theorem perform_effect (app : App) (request : Request) (clock : Clock) (action : Action) :
    Effect app (app.perform request clock action).2.1
      ((app.perform request clock action).1.map Response.status)
      (Exchange.writeOf? ⟨request, clock, (app.perform request clock action).1.map Response.status⟩
        app.cache.settings.defaultTtl action) := by
  cases action with
  | tellHealth | tellMetrics | connect => exact .silent rfl rfl rfl
  | tellWidgetMetrics widget =>
    cases decoded : Http.Percent.decode? widget with
    | none => simpa [perform, decoded, Exchange.writeOf?] using Effect.silent rfl rfl rfl
    | some widget => simpa [perform, decoded, Exchange.writeOf?] using Effect.silent rfl rfl rfl
  | save widget =>
    cases decoded : Http.Percent.decode? widget with
    | none => simpa [perform, decoded, Exchange.writeOf?] using Effect.silent rfl rfl rfl
    | some widget =>
      cases body : dataOf request with
      | error response =>
        simpa [perform, decoded, body, Exchange.writeOf?] using Effect.silent rfl rfl rfl
      | ok data =>
        simpa only [perform, decoded, body, Exchange.writeOf?] using app.save_effect widget data clock
  | load widget key =>
    cases decoded : Http.Percent.decode? widget with
    | none => simpa [perform, decoded, Exchange.writeOf?] using Effect.silent rfl rfl rfl
    | some widget =>
      cases decodedKey : Http.Percent.decode? key with
      | none => simpa [perform, decoded, decodedKey, Exchange.writeOf?] using Effect.silent rfl rfl rfl
      | some key =>
        simpa only [perform, decoded, decodedKey, Exchange.writeOf?] using
          app.load_effect widget key clock.reading _
  | erase widget key =>
    cases decoded : Http.Percent.decode? widget with
    | none => simpa [perform, decoded, Exchange.writeOf?] using Effect.silent rfl rfl rfl
    | some widget =>
      cases decodedKey : Http.Percent.decode? key with
      | none => simpa [perform, decoded, decodedKey, Exchange.writeOf?] using Effect.silent rfl rfl rfl
      | some key =>
        simpa only [perform, decoded, decodedKey, Exchange.writeOf?] using
          app.erase_effect widget key clock.wall

theorem dispatch_of_action {app : App} {request : Request} {clock : Clock} {action : Action}
    (asked : actionOf request = some action) :
    app.dispatch request clock = app.perform request clock action := by
  obtain ⟨route, found, asks⟩ := Option.bind_eq_some_iff.mp asked
  simp [dispatch, found, asks]

theorem dispatch_of_none (app : App) {request : Request} (clock : Clock)
    (asked : actionOf request = none) :
    ∃ status, app.dispatch request clock = (some (.bare status), app, []) := by
  cases found : Route.ofPath? request.path with
  | none => exact ⟨404, by simp [dispatch, found]⟩
  | some route =>
    have asks : route.action? request.method = none := by simpa [actionOf, found] using asked
    exact ⟨405, by simp [dispatch, found, asks]⟩

theorem dispatch_effect (app : App) (request : Request) (clock : Clock) :
    Effect app (app.dispatch request clock).2.1
      ((app.dispatch request clock).1.map Response.status)
      (Exchange.write? ⟨request, clock, (app.dispatch request clock).1.map Response.status⟩
        app.cache.settings.defaultTtl) := by
  cases asked : actionOf request with
  | none =>
    obtain ⟨status, outcome⟩ := app.dispatch_of_none clock asked
    simpa [outcome, Exchange.write?, asked] using Effect.silent rfl rfl rfl
  | some action =>
    rw [dispatch_of_action asked]
    simpa only [Exchange.write?, asked, Option.bind_some] using
      app.perform_effect request clock action

theorem tracked_spec (app : App) (request : Request) (clock : Clock) :
    (app.tracked request clock).1 = (app.dispatch request clock).1 ∧
      (app.tracked request clock).2.1.cache = (app.dispatch request clock).2.1.cache ∧
      (app.tracked request clock).2.1.metrics = (app.dispatch request clock).2.1.metrics ∧
      (app.tracked request clock).2.1.hub = (app.dispatch request clock).2.1.hub := by
  simp only [tracked]
  split <;> simp [*]

/-- Whether the limiter lets a request through. -/
def admits (app : App) (request : Request) (clock : Clock) : Bool :=
  !app.limitsRequests || (app.limiter.allowRequest (originOf request) clock.reading).1

/-- An admitted request is worked for by the program as it is, its counts apart; any other leaves the
program so. -/
theorem admitted_spec (app : App) (request : Request) (clock : Clock) :
    ∃ counted : App, counted.cache = app.cache ∧ counted.metrics = app.metrics ∧
      counted.hub = app.hub ∧
      (app.admits request clock = true ∧
          (app.admitted request clock).1 = (counted.tracked request clock).1 ∧
          (app.admitted request clock).2.1 = (counted.tracked request clock).2.1 ∨
        app.admits request clock = false ∧ (app.admitted request clock).1 = some tooMany ∧
          (app.admitted request clock).2.1 = counted) := by
  cases limits : app.limitsRequests with
  | false =>
    refine ⟨{ app with requests := app.requests.request }, rfl, rfl, rfl, Or.inl ?_⟩
    simp [admits, admitted, limits]
  | true =>
    rcases charged : app.limiter.allowRequest (originOf request) clock.reading with
      ⟨allowed, limiter, records⟩
    cases allowed with
    | true =>
      refine ⟨{ app with requests := app.requests.request, limiter := limiter }, rfl, rfl, rfl,
        Or.inl ?_⟩
      simp [admits, admitted, limits, charged]
    | false =>
      refine ⟨{ app with requests := app.requests.request.refuse, limiter := limiter }, rfl, rfl, rfl,
        Or.inr ?_⟩
      simp [admits, admitted, limits, charged]

theorem admitted_effect (app : App) (request : Request) (clock : Clock) :
    Effect app (app.admitted request clock).2.1
      ((app.admitted request clock).1.map Response.status)
      (Exchange.write? ⟨request, clock, (app.admitted request clock).1.map Response.status⟩
        app.cache.settings.defaultTtl) := by
  obtain ⟨counted, cache, metrics, _, ⟨_, response, after⟩ | ⟨_, response, after⟩⟩ :=
    app.admitted_spec request clock
  · obtain ⟨sameResponse, sameCache, sameMetrics, _⟩ := counted.tracked_spec request clock
    rw [response, after, sameResponse, ← cache]
    exact (counted.dispatch_effect request clock).congr cache.symm metrics.symm sameCache sameMetrics
  · have silent : Exchange.write? ⟨request, clock, some tooMany.status⟩
        app.cache.settings.defaultTtl = none :=
      Exchange.write?_of_status (by decide) (by decide) request clock _
    rw [response, after, Option.map_some, silent]
    exact .silent (by rw [cache]) (by rw [metrics]) (by rw [cache])

theorem actionOf_of_options {request : Request} (options : request.method = .options) :
    actionOf request = none := by
  cases found : Route.ofPath? request.path with
  | none => simp [actionOf, found]
  | some route => cases route <;> simp [actionOf, found, options, Route.action?]

theorem measured_spec (response : Response) :
    response.measured.status = response.status ∧ response.measured.body = response.body := by
  simp only [Response.measured]
  split
  · exact ⟨rfl, rfl⟩
  · exact ⟨rfl, rfl⟩

theorem finished_spec (request : Request) (response : Response) :
    (finished request response).status = response.status ∧
      (request.method ≠ .head → (finished request response).body = response.body) := by
  obtain ⟨listed, status, body, finishes⟩ : ∃ listed : Response,
      listed.status = response.status ∧ listed.body = response.body ∧
        finished request response =
          if request.method = .head then listed.measured.beheaded else listed.measured := by
    cases found : Route.ofPath? request.path with
    | none => exact ⟨response, rfl, rfl, by simp [finished, found]⟩
    | some route =>
      by_cases answered : request.method ∈ route.methods
      · exact ⟨response, rfl, rfl, by simp [finished, found, answered]⟩
      · exact ⟨response.withHeaders [("allow", route.allowed)], rfl, rfl,
          by simp [finished, found, answered]⟩
  obtain ⟨measuredStatus, measuredBody⟩ := measured_spec listed
  rw [finishes]
  split
  · rename_i head
    exact ⟨measuredStatus.trans status, fun other => absurd head other⟩
  · exact ⟨measuredStatus.trans status, fun _ => measuredBody.trans body⟩

theorem shared_spec {app : App} {request : Request} (clock : Clock)
    (asked : app.isPreflight request = false) :
    (app.shared request clock).2.1 = (app.admitted request clock).2.1 ∧
      (app.shared request clock).1.map (fun response => (response.status, response.body)) =
        (app.admitted request clock).1.map fun response => (response.status, response.body) := by
  simp only [shared, asked, Bool.false_eq_true, if_false]
  refine ⟨trivial, ?_⟩
  split
  · simp [Response.withHeaders, Function.comp_def]
  · rfl

theorem shared_effect (app : App) (request : Request) (clock : Clock) :
    Effect app (app.shared request clock).2.1
      ((app.shared request clock).1.map Response.status)
      (Exchange.write? ⟨request, clock, (app.shared request clock).1.map Response.status⟩
        app.cache.settings.defaultTtl) := by
  by_cases preflights : app.isPreflight request = true
  · have options : request.method = .options := by
      simpa using (Bool.and_eq_true_iff.mp preflights).2
    have outcome : app.shared request clock = (some preflight, app, []) := by
      simp [shared, preflights]
    rw [outcome, Exchange.write?, actionOf_of_options options]
    exact .silent rfl rfl rfl
  · obtain ⟨after, answer⟩ := shared_spec clock (by simpa using preflights)
    have status := congrArg (Option.map Prod.fst) answer
    simp only [Option.map_map, Function.comp_def] at status
    rw [after, status]
    exact app.admitted_effect request clock

/-- What a request does to the data is what its answer tells. -/
theorem handle_effect (app : App) (request : Request) (clock : Clock) :
    Effect app (app.handle request clock).2.1
      ((app.handle request clock).1.map Response.status)
      (Exchange.write? ⟨request, clock, (app.handle request clock).1.map Response.status⟩
        app.cache.settings.defaultTtl) := by
  have status : (app.handle request clock).1.map Response.status =
      (app.shared request clock).1.map Response.status := by
    simp [handle, Option.map_map, Function.comp_def, finished_spec]
  rw [status]
  exact app.shared_effect request clock

theorem handle_load {app : App} {request : Request} {clock : Clock} {widget key : String}
    {widgetText keyText : List Char} (get : request.method = .get)
    (asked : actionOf request = some (.load widgetText keyText))
    (widgetDecoded : Http.Percent.decode? widgetText = some widget)
    (keyDecoded : Http.Percent.decode? keyText = some key)
    (admitted : app.admits request clock = true) :
    ∃ response, (app.handle request clock).1 = some response ∧
      (response.status, response.body) =
        ((lookedUp widget key (app.cache.store.valueAt (dataKey widget key) clock.reading)).status,
          (lookedUp widget key (app.cache.store.valueAt (dataKey widget key) clock.reading)).body) := by
  obtain ⟨counted, cache, _, _, ⟨_, charged, _⟩ | ⟨refused, _⟩⟩ := app.admitted_spec request clock
  · have preflights : app.isPreflight request = false := by simp [isPreflight, get]
    have answer := (shared_spec clock preflights).2
    rw [charged, (counted.tracked_spec request clock).1, dispatch_of_action asked] at answer
    simp only [perform, widgetDecoded, keyDecoded, load_eq, cache, Option.map_some] at answer
    obtain ⟨response, responds, same⟩ := Option.map_eq_some_iff.mp answer
    obtain ⟨status, body⟩ := finished_spec request response
    refine ⟨finished request response, by simp [handle, responds], ?_⟩
    rw [status, body (by simp [get]), same]
  · rw [admitted] at refused
    cases refused

end App
end Dashboard.Web
