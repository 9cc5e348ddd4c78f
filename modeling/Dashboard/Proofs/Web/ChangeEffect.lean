import Dashboard.Proofs.Metrics.Tracking
import Dashboard.Proofs.Web.DataEffect

namespace Dashboard.Web

open Http (Request)

/-- A change to the data of a widget, as it is announced. -/
structure Change where
  widget : String
  key : String
  action : Event.ChangeAction
  time : WallTime

def Change.event (change : Change) : Event :=
  ⟨.change change.widget change.action (some change.key), some change.widget,
    change.time.epochSeconds⟩

namespace Exchange

/-- The change that a request was answered for. -/
def changeOf? (exchange : Exchange) : Action → Option Change
  | .save widget =>
    match Http.Percent.decode? widget, App.dataOf exchange.request with
    | some widget, .ok data =>
      if exchange.status = some 201 then some ⟨widget, data.key, .updated, exchange.clock.wall⟩
      else none
    | _, _ => none
  | .erase widget key =>
    match Http.Percent.decode? widget, Http.Percent.decode? key with
    | some widget, some key =>
      if exchange.status = some 204 then some ⟨widget, key, .deleted, exchange.clock.wall⟩ else none
    | _, _ => none
  | _ => none

/-- Data was stored and the request answered 201, or it was erased and the request answered 204. -/
def change? (exchange : Exchange) : Option Change :=
  (actionOf exchange.request).bind exchange.changeOf?

theorem change?_of_status {request : Request} {clock : Clock} {status : Nat} (created : status ≠ 201)
    (erased : status ≠ 204) : change? ⟨request, clock, some status⟩ = none := by
  cases asked : actionOf request with
  | none => simp [change?, asked]
  | some action =>
    cases action with
    | save widget =>
      simp only [change?, asked, Option.bind_some, changeOf?, Option.some.injEq, created, if_false]
      split <;> rfl
    | erase widget key =>
      simp only [change?, asked, Option.bind_some, changeOf?, Option.some.injEq, erased, if_false]
      split <;> rfl
    | tellHealth | tellMetrics | tellWidgetMetrics widget | load widget key | connect =>
      simp [change?, asked, changeOf?]

theorem action_of_change? {exchange : Exchange} {made : Change} (changed : exchange.change? = some made) :
    made.action = .updated ∨ made.action = .deleted := by
  obtain ⟨action, -, answered⟩ := Option.bind_eq_some_iff.mp changed
  cases action with
  | save widget =>
    simp only [changeOf?] at answered
    split at answered
    · split at answered
      · exact Or.inl (congrArg Change.action (Option.some.inj answered).symm)
      · cases answered
    · cases answered
  | erase widget key =>
    simp only [changeOf?] at answered
    split at answered
    · split at answered
      · exact Or.inr (congrArg Change.action (Option.some.inj answered).symm)
      · cases answered
    · cases answered
  | tellHealth | tellMetrics | tellWidgetMetrics widget | load widget key | connect => cases answered

/-- The change that an answer 201 would have been for. -/
def intended? (exchange : Exchange) : Option Change := { exchange with status := some 201 }.change?

end Exchange

/-- The work for a request announces the change that it is answered for, and counts it as an update when
data was stored and as an error when the hub takes no announcements. A request without an answer may
have announced a change too, for which the metrics have no room. -/
structure Told (before after : App) (status : Option Nat) (change intended : Option Change) : Prop
    where
  windowSize : after.metrics.windowSize = before.metrics.windowSize
  updates : ∀ widget, after.metrics.updatesOf widget = before.metrics.updatesOf widget +
    change.toList.countP fun made => made.widget = widget ∧ made.action = .updated
  errors : ∀ widget, after.metrics.errorsOf widget = before.metrics.errorsOf widget +
    if before.hub.isRunning then 0 else change.toList.countP fun made => made.widget = widget
  announced : ∀ made, change = some made → after.hub = (before.hub.publish made.event).2.1
  silent : change = none → after.hub = before.hub ∨
    status = none ∧ Metrics.Collector.largestWindow < before.metrics.windowSize ∧
      ∃ made, intended = some made ∧ after.hub = (before.hub.publish made.event).2.1

namespace Told

variable {before after : App} {status : Option Nat} {intended : Option Change}

theorem nothing (hub : after.hub = before.hub) (metrics : after.metrics = before.metrics) :
    Told before after status none intended where
  windowSize := by rw [metrics]
  updates := by simp [metrics]
  errors := by simp [metrics]
  announced := nofun
  silent _ := Or.inl hub

theorem congr {change : Option Change} (told : Told before after status change intended)
    {first last : App} (firstHub : first.hub = before.hub)
    (firstMetrics : first.metrics = before.metrics) (lastHub : last.hub = after.hub)
    (lastMetrics : last.metrics = after.metrics) : Told first last status change intended where
  windowSize := by rw [firstMetrics, lastMetrics, told.windowSize]
  updates := by rw [firstMetrics, lastMetrics]; exact told.updates
  errors := by rw [firstMetrics, lastMetrics, firstHub]; exact told.errors
  announced := by rw [firstHub, lastHub]; exact told.announced
  silent := by rw [firstMetrics, firstHub, lastHub]; exact told.silent

end Told

namespace App

/-- A running hub takes an announcement; with a stopped one it is an error of the widget, for which
there may be no room. -/
theorem announce_cases (app : App) (change : Change) :
    app.hub.isRunning = true ∧ (app.announce change.widget change.key change.action change.time).1 =
        some { app with hub := (app.hub.publish change.event).2.1 } ∨
      app.hub.isRunning = false ∧ (app.announce change.widget change.key change.action change.time).1 =
        if app.metrics.hasRoom change.widget then
          some { app with
            metrics := app.metrics.recordError change.widget Hub.HubError.stopped.text }
        else none := by
  by_cases running : app.hub.isRunning = true
  · refine Or.inl ⟨running, ?_⟩
    simp [announce, Hub.Service.broadcast, Hub.Service.publish, Hub.Service.submit, running,
      Change.event]
  · refine Or.inr ⟨by simpa using running, ?_⟩
    simp [announce, Hub.Service.broadcast, Hub.Service.publish, Hub.Service.submit, running, report?]

/-- Data that was stored is announced and then reported. -/
theorem save_told_of_stored {app : App} {widget : String} {data : WidgetData} {clock : Clock}
    {cache : Cache.Service Json.Value} (key : data.hasKey = true)
    (stored : app.stored? widget data clock.reading = some cache) :
    Told app (app.save widget data clock).2.1 ((app.save widget data clock).1.map Response.status)
      (if (app.save widget data clock).1.map Response.status = some 201 then
        some ⟨widget, data.key, .updated, clock.wall⟩ else none)
      (some ⟨widget, data.key, .updated, clock.wall⟩) := by
  have answer := { app with cache := cache }.announce_cases ⟨widget, data.key, .updated, clock.wall⟩
  simp only [save, key, if_true, stored]
  split
  · exact .nothing rfl rfl
  · rename_i told records announced
    rw [announced] at answer
    rcases answer with ⟨running, taken⟩ | ⟨stopped, refused⟩
    · obtain rfl : told = _ := Option.some.inj taken
      have isRunning : app.hub.isRunning = true := running
      by_cases room : app.metrics.hasRoom widget = true
      · simp only [report?, room, if_true]
        refine ⟨rfl, ?_, ?_, ?_, by simp [Response.json, Response.jsonBody]⟩
        · simp [Response.json, Response.jsonBody, Metrics.Collector.updatesOf_recordUpdate]
        · simp [isRunning, Metrics.Collector.errorsOf_recordUpdate]
        · simp [Response.json, Response.jsonBody]
      · simp only [report?, room, if_false, Bool.false_eq_true]
        refine ⟨rfl, ?_, ?_, by simp, fun _ => Or.inr ⟨rfl, ?_, _, rfl, rfl⟩⟩
        · simp
        · simp
        · simp only [Metrics.Collector.hasRoom, Bool.or_eq_true, decide_eq_true_eq, not_or] at room
          omega
    · have isStopped : app.hub.isRunning = false := stopped
      by_cases room : app.metrics.hasRoom widget = true
      · simp only [room, if_true] at refused
        obtain rfl : told = _ := Option.some.inj refused
        have tracked := app.metrics.hasRoom_recordError widget Hub.HubError.stopped.text
        simp only [report?, tracked, if_true]
        refine ⟨rfl, ?_, ?_, ?_, by simp [Response.json, Response.jsonBody]⟩
        · simp [Response.json, Response.jsonBody, Metrics.Collector.updatesOf_recordUpdate,
            Metrics.Collector.updatesOf_recordError]
        · simp [Response.json, Response.jsonBody, Metrics.Collector.errorsOf_recordUpdate,
            Metrics.Collector.errorsOf_recordError, isStopped]
        · simp [Response.json, Response.jsonBody, Hub.Service.publish, Hub.Service.submit, isStopped]
      · simp [room] at refused

theorem save_told (app : App) (widget : String) (data : WidgetData) (clock : Clock) :
    Told app (app.save widget data clock).2.1 ((app.save widget data clock).1.map Response.status)
      (if (app.save widget data clock).1.map Response.status = some 201 then
        some ⟨widget, data.key, .updated, clock.wall⟩ else none)
      (some ⟨widget, data.key, .updated, clock.wall⟩) := by
  by_cases key : data.hasKey = true
  · cases stored : app.stored? widget data clock.reading with
    | some cache => exact save_told_of_stored key stored
    | none =>
      have outcome : app.save widget data clock = (none, app, []) := by
        simp [save, key, stored]
      rw [outcome]
      exact .nothing rfl rfl
  · have outcome : app.save widget data clock =
        (some (.refusal 400 "MISSING_KEY" "Missing 'key' field"), app, []) := by
      simp [save, key]
    rw [outcome]
    exact .nothing rfl rfl

/-- Data is erased whatever becomes of the announcement, without which there is no answer. -/
theorem erase_eq {app erased : App} (widget key : String) (time : WallTime)
    (erasure : { app with cache := app.cache.delete (dataKey widget key) } = erased) :
    app.erase widget key time =
      ((erased.announce widget key .deleted time).1.map fun _ => .bare 204,
        (erased.announce widget key .deleted time).1.getD erased,
        (erased.announce widget key .deleted time).2) := by
  simp only [erase, erasure]
  rcases erased.announce widget key .deleted time with ⟨_ | told, records⟩
  · rfl
  · rfl

theorem erase_told (app : App) (widget key : String) (time : WallTime) (intended : Option Change) :
    Told app (app.erase widget key time).2.1 ((app.erase widget key time).1.map Response.status)
      (if (app.erase widget key time).1.map Response.status = some 204 then
        some ⟨widget, key, .deleted, time⟩ else none) intended := by
  obtain ⟨erased, erasure⟩ : ∃ erased : App,
      { app with cache := app.cache.delete (dataKey widget key) } = erased := ⟨_, rfl⟩
  have hub : erased.hub = app.hub := by rw [← erasure]
  have metrics : erased.metrics = app.metrics := by rw [← erasure]
  have answer := erased.announce_cases ⟨widget, key, .deleted, time⟩
  rw [hub, metrics] at answer
  rw [erase_eq widget key time erasure]
  rcases answer with ⟨running, taken⟩ | ⟨stopped, refused⟩
  · simp only [taken]
    refine ⟨?_, ?_, ?_, ?_, by simp [Response.bare]⟩
    · simp
    · simp [Response.bare]
    · simp [running]
    · simp [Response.bare]
  · simp only [refused]
    by_cases room : app.metrics.hasRoom widget = true
    · simp only [room, if_true]
      refine ⟨rfl, ?_, ?_, ?_, by simp [Response.bare]⟩
      · simp [Response.bare, Metrics.Collector.updatesOf_recordError]
      · simp [Response.bare, Metrics.Collector.errorsOf_recordError, stopped]
      · simp [Response.bare, Hub.Service.publish, Hub.Service.submit, stopped]
    · simp only [room, if_false, Bool.false_eq_true]
      exact .nothing hub metrics

theorem perform_told (app : App) (request : Request) (clock : Clock) (action : Action) :
    let status := (app.perform request clock action).1.map Response.status
    Told app (app.perform request clock action).2.1 status
      (Exchange.changeOf? ⟨request, clock, status⟩ action)
      (Exchange.changeOf? ⟨request, clock, some 201⟩ action) := by
  intro status
  cases action with
  | tellHealth | tellMetrics | connect => exact .nothing rfl rfl
  | tellWidgetMetrics widget =>
    cases decoded : Http.Percent.decode? widget with
    | none => simpa [perform, decoded, Exchange.changeOf?] using Told.nothing rfl rfl
    | some widget => simpa [perform, decoded, Exchange.changeOf?] using Told.nothing rfl rfl
  | save widget =>
    cases decoded : Http.Percent.decode? widget with
    | none => simpa [perform, decoded, Exchange.changeOf?] using Told.nothing rfl rfl
    | some widget =>
      cases body : dataOf request with
      | error response => simpa [perform, decoded, body, Exchange.changeOf?] using Told.nothing rfl rfl
      | ok data =>
        simpa [status, perform, decoded, body, Exchange.changeOf?] using
          app.save_told widget data clock
  | load widget key =>
    cases decoded : Http.Percent.decode? widget with
    | none => simpa [perform, decoded, Exchange.changeOf?] using Told.nothing rfl rfl
    | some widget =>
      cases decodedKey : Http.Percent.decode? key with
      | none => simpa [perform, decoded, decodedKey, Exchange.changeOf?] using Told.nothing rfl rfl
      | some key =>
        simp only [perform, decoded, decodedKey, Exchange.changeOf?, load_eq]
        exact .nothing rfl rfl
  | erase widget key =>
    cases decoded : Http.Percent.decode? widget with
    | none => simpa [perform, decoded, Exchange.changeOf?] using Told.nothing rfl rfl
    | some widget =>
      cases decodedKey : Http.Percent.decode? key with
      | none => simpa [perform, decoded, decodedKey, Exchange.changeOf?] using Told.nothing rfl rfl
      | some key =>
        simpa [status, perform, decoded, decodedKey, Exchange.changeOf?] using
          app.erase_told widget key clock.wall none

theorem dispatch_told (app : App) (request : Request) (clock : Clock) :
    let exchange : Exchange :=
      ⟨request, clock, (app.dispatch request clock).1.map Response.status⟩
    Told app (app.dispatch request clock).2.1 exchange.status exchange.change?
      exchange.intended? := by
  intro exchange
  cases asked : actionOf request with
  | none =>
    obtain ⟨status, outcome⟩ := app.dispatch_of_none clock asked
    simpa [exchange, outcome, Exchange.change?, asked] using Told.nothing rfl rfl
  | some action =>
    have told := app.perform_told request clock action
    rw [← dispatch_of_action asked] at told
    simpa [exchange, Exchange.change?, Exchange.intended?, asked] using told

theorem admitted_told (app : App) (request : Request) (clock : Clock) :
    let exchange : Exchange :=
      ⟨request, clock, (app.admitted request clock).1.map Response.status⟩
    Told app (app.admitted request clock).2.1 exchange.status exchange.change?
      exchange.intended? := by
  obtain ⟨counted, _, metrics, hub, ⟨_, response, after⟩ | ⟨_, response, after⟩⟩ :=
    app.admitted_spec request clock
  · obtain ⟨sameResponse, _, sameMetrics, sameHub⟩ := counted.tracked_spec request clock
    rw [response, after, sameResponse]
    exact (counted.dispatch_told request clock).congr hub.symm metrics.symm sameHub sameMetrics
  · have silent : Exchange.change? ⟨request, clock, some tooMany.status⟩ = none :=
      Exchange.change?_of_status (by decide) (by decide)
    rw [response, after]
    simp only [Option.map_some, silent]
    exact .nothing hub metrics

theorem shared_told (app : App) (request : Request) (clock : Clock) :
    let exchange : Exchange :=
      ⟨request, clock, (app.shared request clock).1.map Response.status⟩
    Told app (app.shared request clock).2.1 exchange.status exchange.change?
      exchange.intended? := by
  by_cases preflights : app.isPreflight request = true
  · have options : request.method = .options := by
      simpa using (Bool.and_eq_true_iff.mp preflights).2
    have outcome : app.shared request clock = (some preflight, app, []) := by
      simp [shared, preflights]
    simp only [outcome, Exchange.change?, actionOf_of_options options, Option.bind_none]
    exact .nothing rfl rfl
  · obtain ⟨after, answer⟩ := shared_spec clock (by simpa using preflights)
    have status := congrArg (Option.map Prod.fst) answer
    simp only [Option.map_map, Function.comp_def] at status
    rw [after, status]
    exact app.admitted_told request clock

/-- What a request makes of the hub and of the metrics is what its answer tells. -/
theorem handle_told (app : App) (request : Request) (clock : Clock) :
    let exchange : Exchange :=
      ⟨request, clock, (app.handle request clock).1.map Response.status⟩
    Told app (app.handle request clock).2.1 exchange.status exchange.change?
      exchange.intended? := by
  have status : (app.handle request clock).1.map Response.status =
      (app.shared request clock).1.map Response.status := by
    simp [handle, Option.map_map, Function.comp_def, finished_spec]
  rw [status]
  exact app.shared_told request clock

theorem dataOf_error {request : Request} {response : Response}
    (refused : dataOf request = .error response) : 400 ≤ response.status := by
  unfold dataOf at refused
  split at refused
  · obtain rfl := Except.error.inj refused
    decide
  · split at refused
    · obtain rfl := Except.error.inj refused
      decide
    · split at refused
      · obtain rfl := Except.error.inj refused
        decide
      · dsimp only at refused
        split at refused
        · cases refused
        · obtain rfl := Except.error.inj refused
          split
          · exact Nat.le_add_right 400 22
          · exact Nat.le_refl 400

theorem respond_status (request : Request) :
    (Upgrade.respond request).status = 101 ∨ 400 ≤ (Upgrade.respond request).status := by
  unfold Upgrade.respond
  split
  · rename_i refusal refused
    refine Or.inr ?_
    change 400 ≤ refusal.status
    cases refusal <;> decide
  · exact Or.inl rfl

theorem tellWidgetMetrics_status (app : App) (widget : String) :
    (app.tellWidgetMetrics widget).status = 200 ∨ (app.tellWidgetMetrics widget).status = 404 := by
  unfold tellWidgetMetrics
  split
  · exact Or.inl rfl
  · exact Or.inr rfl

theorem lookedUp_status (widget key : String) (found? : Option Json.Value) :
    (lookedUp widget key found?).status = 200 ∨ (lookedUp widget key found?).status = 404 := by
  cases found? with
  | some value => exact Or.inl rfl
  | none => exact Or.inr rfl

theorem save_status {app : App} {widget : String} {data : WidgetData} {clock : Clock} {status : Nat}
    (answered : (app.save widget data clock).1.map Response.status = some status) :
    status = 201 ∨ status = 400 := by
  unfold save at answered
  split at answered
  · split at answered
    · cases answered
    · dsimp only at answered
      split at answered
      · cases answered
      · split at answered
        · cases answered
        · exact Or.inl (Option.some.inj answered).symm
  · exact Or.inr (Option.some.inj answered).symm

theorem erase_status {app : App} {widget key : String} {time : WallTime} {status : Nat}
    (answered : (app.erase widget key time).1.map Response.status = some status) : status = 204 := by
  simp only [erase] at answered
  split at answered
  · cases answered
  · exact (Option.some.inj answered).symm

theorem perform_status (app : App) (request : Request) (clock : Clock) (action : Action) {status : Nat}
    (answered : (app.perform request clock action).1.map Response.status = some status)
    (success : status = 201 ∨ status = 204) :
    (Exchange.changeOf? ⟨request, clock, some status⟩ action).isSome = true := by
  cases action with
  | tellHealth | tellMetrics =>
    have other : 200 = status := Option.some.inj answered
    omega
  | connect =>
    have other : (Upgrade.respond request).status = status := Option.some.inj answered
    have either := respond_status request
    omega
  | tellWidgetMetrics widget =>
    simp only [perform] at answered
    split at answered
    · have other : 400 = status := Option.some.inj answered
      omega
    · rename_i name decoded
      have other : (app.tellWidgetMetrics name).status = status := Option.some.inj answered
      have either := app.tellWidgetMetrics_status name
      omega
  | save widget =>
    simp only [perform] at answered
    split at answered
    · have other : 400 = status := Option.some.inj answered
      omega
    · rename_i name decoded
      split at answered
      · rename_i response refused
        have high := dataOf_error refused
        have other : response.status = status := Option.some.inj answered
        omega
      · rename_i data body
        have created : status = 201 := by
          have either := save_status answered
          omega
        simp [Exchange.changeOf?, decoded, body, created]
  | load widget key =>
    simp only [perform] at answered
    split at answered
    · have other : 400 = status := Option.some.inj answered
      omega
    · have other : 400 = status := Option.some.inj answered
      omega
    · rename_i name keyName decoded decodedKey
      rw [load_eq] at answered
      let found? := app.cache.store.valueAt (dataKey name keyName) clock.reading
      have other : (lookedUp name keyName found?).status = status := Option.some.inj answered
      have either := lookedUp_status name keyName found?
      omega
  | erase widget key =>
    simp only [perform] at answered
    split at answered
    · have other : 400 = status := Option.some.inj answered
      omega
    · have other : 400 = status := Option.some.inj answered
      omega
    · rename_i name keyName decoded decodedKey
      simp [Exchange.changeOf?, decoded, decodedKey, erase_status answered]

/-- An answer 201 or 204 is one to a request that has changed data. -/
theorem handle_status (app : App) (request : Request) (clock : Clock) {status : Nat}
    (answered : (app.handle request clock).1.map Response.status = some status)
    (success : status = 201 ∨ status = 204) :
    (Exchange.change? ⟨request, clock, some status⟩).isSome = true := by
  have shares : (app.shared request clock).1.map Response.status = some status := by
    rw [← answered]
    simp [handle, Option.map_map, Function.comp_def, finished_spec]
  by_cases preflights : app.isPreflight request = true
  · have other : 200 = status := by
      simpa [shared, preflights, preflight, Response.withHeaders, Response.bare] using shares
    omega
  have answer := congrArg (Option.map Prod.fst) (shared_spec clock (by simpa using preflights)).2
  simp only [Option.map_map, Function.comp_def] at answer
  rw [answer] at shares
  obtain ⟨counted, _, _, _, ⟨_, response, _⟩ | ⟨_, response, _⟩⟩ := app.admitted_spec request clock
  · rw [response, (counted.tracked_spec request clock).1] at shares
    cases asked : actionOf request with
    | none =>
      cases found : Route.ofPath? request.path with
      | none =>
        have other : 404 = status := by simpa [dispatch, found, Response.bare] using shares
        omega
      | some route =>
        have asks : route.action? request.method = none := by simpa [actionOf, found] using asked
        have other : 405 = status := by simpa [dispatch, found, asks, Response.bare] using shares
        omega
    | some action =>
      rw [dispatch_of_action asked] at shares
      simpa [Exchange.change?, asked] using
        counted.perform_status request clock action shares success
  · rw [response] at shares
    have other : 429 = status := Option.some.inj shares
    omega

end App
end Dashboard.Web
