import Dashboard.Proofs.Web.ChangeEffect

/-! The ways of a request through the program. A preflight passes it by; any other request is counted and,
where requests are charged for, charged. Who cannot pay is turned away, and for everybody else the work
is done, which leaves the counts of requests and the limiter alone. -/

namespace Dashboard

namespace RateLimit.Service

/-- A limiter that has granted a request, with other buckets. -/
def granting (service : Service) (buckets : List (String × Bucket Float)) : Service :=
  { service with limiter := { service.limiter with
      buckets := buckets, allowed := service.limiter.allowed + 1 } }

/-- A limiter that has denied a request, with other buckets. -/
def denying (service : Service) (buckets : List (String × Bucket Float)) : Service :=
  { service with limiter := { service.limiter with
      buckets := buckets, denied := service.limiter.denied + 1 } }

/-- Every request is either granted or denied, and counted as that. -/
theorem allowRequest_cases (service : Service) (origin : Origin) (now : Instant) :
    ∃ buckets records,
      service.allowRequest origin now = (true, service.granting buckets, records) ∨
        service.allowRequest origin now = (false, service.denying buckets, records) := by
  let bucket := (service.limiter.bucket? origin.key).getD (.full service.limiter.budget now)
  obtain ⟨allowed, left, charged⟩ : ∃ allowed left,
      bucket.allow service.limiter.budget (finite? 1.0) now = (allowed, left) := ⟨_, _, rfl⟩
  refine ⟨Association.put origin.key left service.limiter.buckets,
    if allowed then [] else [denial origin.key 1.0], ?_⟩
  cases allowed with
  | true =>
    apply Or.inl
    simp [allowRequest, allow, Limiter.allow, granting, bucket, charged]
  | false =>
    apply Or.inr
    simp [allowRequest, allow, Limiter.allow, denying, bucket, charged]

end RateLimit.Service

theorem Cache.Store.get_of_none {α : Type} {store after : Store α} {key : String} {now : Instant}
    (looked : store.get key now = (none, after)) : after = { store with misses := store.misses + 1 } := by
  simp only [get] at looked
  split at looked
  · split at looked
    · exact (congrArg Prod.snd looked).symm
    · cases looked
  · exact (congrArg Prod.snd looked).symm

namespace Web

open Http (Request)

/-- What the work for a request does not touch. -/
structure App.SameCounts (before after : App) : Prop where
  requests : after.requests = before.requests
  limiter : after.limiter = before.limiter
  limitsRequests : after.limitsRequests = before.limitsRequests
  settings : after.settings = before.settings

namespace App

theorem SameCounts.refl (app : App) : app.SameCounts app := ⟨rfl, rfl, rfl, rfl⟩

theorem SameCounts.trans {first second third : App} (former : first.SameCounts second)
    (latter : second.SameCounts third) : first.SameCounts third where
  requests := latter.requests.trans former.requests
  limiter := latter.limiter.trans former.limiter
  limitsRequests := latter.limitsRequests.trans former.limitsRequests
  settings := latter.settings.trans former.settings

theorem report?_sameCounts {app after : App} {id : String}
    {change : Metrics.Collector → Metrics.Collector}
    (reported : (app.report? id change).1 = some after) : app.SameCounts after := by
  simp only [report?] at reported
  split at reported
  · obtain rfl := Option.some.inj reported
    exact ⟨rfl, rfl, rfl, rfl⟩
  · cases reported

theorem announce_sameCounts {app after : App} {widget key : String} {action : Event.ChangeAction}
    {time : WallTime} (announced : (app.announce widget key action time).1 = some after) :
    app.SameCounts after := by
  simp only [announce] at announced
  split at announced
  · obtain rfl := Option.some.inj announced
    exact ⟨rfl, rfl, rfl, rfl⟩
  · rename_i error hub records refused
    have untouched : app.SameCounts { app with hub := hub } := ⟨rfl, rfl, rfl, rfl⟩
    have reports : ({ app with hub := hub }.report? widget (·.recordError widget error.text)).1 =
        some after := announced
    exact untouched.trans (report?_sameCounts reports)

theorem save_sameCounts (app : App) (widget : String) (data : WidgetData) (clock : Clock) :
    app.SameCounts (app.save widget data clock).2.1 := by
  simp only [save]
  split
  · split
    · exact .refl app
    · rename_i cache stored
      have untouched : app.SameCounts { app with cache := cache } := ⟨rfl, rfl, rfl, rfl⟩
      split
      · exact untouched
      · rename_i told records announced
        have announces := untouched.trans (announce_sameCounts (congrArg Prod.fst announced))
        split
        · exact announces
        · rename_i after reported
          exact announces.trans (report?_sameCounts reported)
  · exact .refl app

theorem erase_sameCounts (app : App) (widget key : String) (time : WallTime) :
    app.SameCounts (app.erase widget key time).2.1 := by
  have untouched : app.SameCounts
      { app with cache := app.cache.delete (dataKey widget key) } := ⟨rfl, rfl, rfl, rfl⟩
  simp only [erase]
  split
  · exact untouched
  · rename_i told records announced
    exact untouched.trans (announce_sameCounts (congrArg Prod.fst announced))

theorem perform_sameCounts (app : App) (request : Request) (clock : Clock) (action : Action) :
    app.SameCounts (app.perform request clock action).2.1 := by
  cases action with
  | tellHealth | tellMetrics | connect => exact .refl app
  | tellWidgetMetrics widget =>
    simp only [perform]
    split <;> exact .refl app
  | save widget =>
    simp only [perform]
    split
    · exact .refl app
    · split
      · exact .refl app
      · exact save_sameCounts app _ _ clock
  | load widget key =>
    simp only [perform]
    split
    · exact .refl app
    · exact .refl app
    · rw [load_eq]
      exact ⟨rfl, rfl, rfl, rfl⟩
  | erase widget key =>
    simp only [perform]
    split
    · exact .refl app
    · exact .refl app
    · exact erase_sameCounts app _ _ clock.wall

theorem dispatch_sameCounts (app : App) (request : Request) (clock : Clock) :
    app.SameCounts (app.dispatch request clock).2.1 := by
  cases asked : actionOf request with
  | none =>
    obtain ⟨status, outcome⟩ := app.dispatch_of_none clock asked
    rw [outcome]
    exact .refl app
  | some action =>
    rw [dispatch_of_action asked]
    exact perform_sameCounts app request clock action

/-- The program after look-ups that found nothing. -/
def missing (app : App) (misses : Nat) : App :=
  { app with cache := { app.cache with store := { app.cache.store with misses := misses } } }

theorem missing_self (app : App) : app.missing app.cache.store.misses = app := rfl

theorem load_rejected {app : App} {widget key : String} {now : Instant}
    (rejected : 400 ≤ (app.load widget key now).1.status) :
    (app.load widget key now).1.status = 404 ∧
      ∃ misses, (app.load widget key now).2 = app.missing misses := by
  rcases looked : app.cache.store.get (dataKey widget key) now with ⟨_ | value, store⟩
  · have outcome : app.load widget key now =
        (lookedUp widget key none, { app with cache := { app.cache with store := store } }) := by
      simp [load, Cache.Service.get, looked, lookedUp]
    rw [outcome]
    refine ⟨rfl, app.cache.store.misses + 1, ?_⟩
    rw [missing, ← Cache.Store.get_of_none looked]
  · have outcome : (app.load widget key now).1 = lookedUp widget key (some value) := by
      simp [load, Cache.Service.get, looked, lookedUp]
    rw [outcome] at rejected
    exact absurd rejected (by decide : ¬ 400 ≤ 200)

/-- The statuses of what cannot be used as data. -/
theorem dataOf_error_ne {request : Request} {response : Response}
    (refused : dataOf request = .error response) : response.status ≠ 429 := by
  unfold dataOf at refused
  split at refused
  · obtain rfl := Except.error.inj refused
    decide
  · split at refused
    · obtain rfl := Except.error.inj refused
      decide
    · split at refused
      · obtain rfl := Except.error.inj refused
        decide
      · dsimp only at refused
        split at refused
        · cases refused
        · obtain rfl := Except.error.inj refused
          split
          · exact (by decide : 422 ≠ 429)
          · exact (by decide : 400 ≠ 429)

theorem respond_ne (request : Request) : (Upgrade.respond request).status ≠ 429 := by
  unfold Upgrade.respond
  split
  · rename_i refusal refused
    change refusal.status ≠ 429
    cases refusal <;> decide
  · exact (by decide : 101 ≠ 429)

theorem save_rejected {app : App} {widget : String} {data : WidgetData} {clock : Clock}
    {response : Response} (answered : (app.save widget data clock).1 = some response)
    (rejected : 400 ≤ response.status) :
    response.status = 400 ∧ (app.save widget data clock).2.1 = app := by
  cases keyed : data.hasKey with
  | false =>
    simp only [save, keyed, Bool.false_eq_true, if_false] at answered ⊢
    obtain rfl := Option.some.inj answered
    exact ⟨rfl, trivial⟩
  | true =>
    cases stored : app.stored? widget data clock.reading with
    | none => simp [save, keyed, stored] at answered
    | some cache =>
      have created := (save_of_stored keyed stored).2.2.1
      rw [answered] at created
      simp only [Option.map_some, Option.all_some, decide_eq_true_eq] at created
      omega

/-- Work that ends in a refusal has at most looked something up in vain. -/
theorem perform_rejected {app : App} {request : Request} {clock : Clock} {action : Action}
    {response : Response} (answered : (app.perform request clock action).1 = some response)
    (rejected : 400 ≤ response.status) :
    response.status ≠ 429 ∧
      ∃ misses, (app.perform request clock action).2.1 = app.missing misses := by
  have unchanged : ∃ misses, app = app.missing misses := ⟨_, app.missing_self⟩
  cases action with
  | tellHealth | tellMetrics =>
    obtain rfl := Option.some.inj answered
    exact absurd rejected (by decide : ¬ 400 ≤ 200)
  | connect =>
    obtain rfl := Option.some.inj answered
    exact ⟨respond_ne request, unchanged⟩
  | tellWidgetMetrics widget =>
    simp only [perform] at answered ⊢
    split at answered
    · obtain rfl := Option.some.inj answered
      exact ⟨by decide, unchanged⟩
    · rename_i name decoded
      obtain rfl := Option.some.inj answered
      have either := app.tellWidgetMetrics_status name
      exact ⟨by omega, unchanged⟩
  | save widget =>
    simp only [perform] at answered ⊢
    split at answered
    · obtain rfl := Option.some.inj answered
      exact ⟨by decide, unchanged⟩
    · split at answered
      · rename_i refusal body
        obtain rfl := Option.some.inj answered
        exact ⟨dataOf_error_ne body, unchanged⟩
      · rename_i data body
        obtain ⟨status, stays⟩ := save_rejected answered rejected
        rw [stays]
        exact ⟨by omega, unchanged⟩
  | load widget key =>
    simp only [perform] at answered ⊢
    split at answered
    · obtain rfl := Option.some.inj answered
      exact ⟨by decide, unchanged⟩
    · obtain rfl := Option.some.inj answered
      exact ⟨by decide, unchanged⟩
    · obtain rfl := Option.some.inj answered
      obtain ⟨status, looked⟩ := load_rejected rejected
      exact ⟨by omega, looked⟩
  | erase widget key =>
    simp only [perform] at answered ⊢
    split at answered
    · obtain rfl := Option.some.inj answered
      exact ⟨by decide, unchanged⟩
    · obtain rfl := Option.some.inj answered
      exact ⟨by decide, unchanged⟩
    · have erased := erase_status (congrArg (Option.map Response.status) answered)
      omega

theorem dispatch_rejected {app : App} {request : Request} {clock : Clock} {response : Response}
    (answered : (app.dispatch request clock).1 = some response) (rejected : 400 ≤ response.status) :
    response.status ≠ 429 ∧ ∃ misses, (app.dispatch request clock).2.1 = app.missing misses := by
  cases asked : actionOf request with
  | some action =>
    rw [dispatch_of_action asked] at answered ⊢
    exact perform_rejected answered rejected
  | none =>
    cases found : Route.ofPath? request.path with
    | none =>
      simp only [dispatch, found] at answered ⊢
      obtain rfl := Option.some.inj answered
      exact ⟨by decide, _, app.missing_self⟩
    | some route =>
      have asks : route.action? request.method = none := by simpa [actionOf, found] using asked
      simp only [dispatch, found, asks] at answered ⊢
      obtain rfl := Option.some.inj answered
      exact ⟨by decide, _, app.missing_self⟩

/-- What becomes of the limiter when a request is let through. -/
inductive Charged (app : App) : RateLimit.Service → Prop where
  | free (unlimited : app.limitsRequests = false) : Charged app app.limiter
  | paid (limits : app.limitsRequests = true) (buckets : List (String × RateLimit.Bucket Float)) :
      Charged app (app.limiter.granting buckets)

/-- The program that does the work for a request. -/
def counting (app : App) (limiter : RateLimit.Service) : App :=
  { app with requests := app.requests.request, limiter := limiter }

/-- How a request passes through the program: the status it is answered, if the work for it does not
break off, and the program after it. -/
inductive Passage (app : App) (request : Request) (clock : Clock) : Option Nat → App → Prop where
  | preflight (asks : app.isPreflight request = true) : Passage app request clock (some 200) app
  | refused (asks : app.isPreflight request = false) (limits : app.limitsRequests = true)
      (buckets : List (String × RateLimit.Bucket Float)) :
      Passage app request clock (some 429)
        { app with
          requests := app.requests.request.refuse, limiter := app.limiter.denying buckets }
  | answered {limiter : RateLimit.Service} {response : Response}
      (asks : app.isPreflight request = false) (charged : app.Charged limiter)
      (works : ((app.counting limiter).dispatch request clock).1 = some response) :
      Passage app request clock (some response.status)
        { ((app.counting limiter).dispatch request clock).2.1 with
          requests := app.requests.request.complete Duration.zero }
  | brokenOff {limiter : RateLimit.Service} (asks : app.isPreflight request = false)
      (charged : app.Charged limiter)
      (works : ((app.counting limiter).dispatch request clock).1 = none) :
      Passage app request clock none ((app.counting limiter).dispatch request clock).2.1

theorem tracked_passage {app : App} {request : Request} {limiter : RateLimit.Service} (clock : Clock)
    (asks : app.isPreflight request = false) (charged : app.Charged limiter) :
    app.Passage request clock (((app.counting limiter).tracked request clock).1.map Response.status)
      ((app.counting limiter).tracked request clock).2.1 := by
  have counts := (app.counting limiter).dispatch_sameCounts request clock
  rcases done : (app.counting limiter).dispatch request clock with ⟨_ | response, after, records⟩
  · have way := Passage.brokenOff asks charged (congrArg Prod.fst done)
    simpa [tracked, done] using way
  · have way := Passage.answered asks charged (congrArg Prod.fst done)
    rw [done] at counts way
    have requests : after.requests = app.requests.request := counts.requests
    simpa [tracked, done, requests] using way

theorem admitted_passage {app : App} {request : Request} (clock : Clock)
    (asks : app.isPreflight request = false) :
    app.Passage request clock ((app.admitted request clock).1.map Response.status)
      (app.admitted request clock).2.1 := by
  cases limits : app.limitsRequests with
  | false =>
    have way := tracked_passage clock asks (.free limits)
    simpa [admitted, limits, counting] using way
  | true =>
    obtain ⟨buckets, records, granted | denied⟩ :=
      app.limiter.allowRequest_cases (originOf request) clock.reading
    · have way := tracked_passage clock asks (.paid limits buckets)
      simpa [admitted, limits, granted, counting] using way
    · have way : app.Passage request clock _ _ := .refused asks limits buckets
      simpa [admitted, limits, denied, tooMany, Response.plain] using way

theorem handle_passage (app : App) (request : Request) (clock : Clock) :
    app.Passage request clock ((app.handle request clock).1.map Response.status)
      (app.handle request clock).2.1 := by
  have status : (app.handle request clock).1.map Response.status =
      (app.shared request clock).1.map Response.status := by
    simp [handle, Option.map_map, Function.comp_def, finished_spec]
  rw [status]
  change app.Passage request clock _ (app.shared request clock).2.1
  by_cases asks : app.isPreflight request = true
  · have outcome : app.shared request clock = (some preflight, app, []) := by
      simp [shared, asks]
    rw [outcome]
    exact .preflight asks
  · have other : app.isPreflight request = false := by simpa using asks
    obtain ⟨after, answer⟩ := shared_spec clock other
    have same := congrArg (Option.map Prod.fst) answer
    simp only [Option.map_map, Function.comp_def] at same
    rw [after, same]
    exact admitted_passage clock other

end App
end Web
end Dashboard
