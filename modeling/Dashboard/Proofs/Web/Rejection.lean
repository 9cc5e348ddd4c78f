import Dashboard.Proofs.Web.Admission
import Dashboard.Proofs.Web.WidgetStore
import Dashboard.Web.Site

namespace Dashboard.Web

open Http (Request)

/-- What a rejected request may leave behind: counts, and buckets of the limiter. -/
structure Tally where
  total : Nat
  limited : Nat
  completed : Nat
  latencyMicros : UInt64
  buckets : List (String × RateLimit.Bucket Float)
  allowed : Nat
  denied : Nat
  misses : Nat

namespace App

def tally (app : App) : Tally where
  total := app.requests.total
  limited := app.requests.limited
  completed := app.requests.completed
  latencyMicros := app.requests.latencyMicros
  buckets := app.limiter.limiter.buckets
  allowed := app.limiter.limiter.allowed
  denied := app.limiter.limiter.denied
  misses := app.cache.store.misses

/-- The same program but for its counts and buckets. -/
def withTally (app : App) (tally : Tally) : App :=
  { app with
    requests := { app.requests with
      total := tally.total, limited := tally.limited, completed := tally.completed,
      latencyMicros := tally.latencyMicros }
    limiter := { app.limiter with limiter := { app.limiter.limiter with
      buckets := tally.buckets, allowed := tally.allowed, denied := tally.denied } }
    cache := { app.cache with store := { app.cache.store with misses := tally.misses } } }

/-- To charge for a request changes nothing but counts and buckets. -/
theorem Charged.counting_eq {app : App} {limiter : RateLimit.Service} (charged : app.Charged limiter) :
    ∃ tally, app.counting limiter = app.withTally tally := by
  cases charged with
  | free unlimited => exact ⟨{ app.tally with total := app.requests.total + 1 }, rfl⟩
  | paid limits buckets =>
    exact ⟨{ app.tally with
      total := app.requests.total + 1, buckets := buckets,
      allowed := app.limiter.limiter.allowed + 1 }, rfl⟩

/-- A request is turned away for its rate, or the work for it is refused. -/
theorem Passage.rejected {app after : App} {request : Request} {clock : Clock} {status : Nat}
    (passage : app.Passage request clock (some status) after) (rejected : 400 ≤ status) :
    ∃ tally, after = app.withTally tally ∧
      (status = 429 → tally.misses = app.tally.misses ∧ tally.completed = app.tally.completed ∧
        tally.latencyMicros = app.tally.latencyMicros) := by
  generalize answer : some status = status? at passage
  cases passage with
  | preflight asks =>
    obtain rfl := Option.some.inj answer
    exact absurd rejected (by decide)
  | refused asks limits buckets =>
    let tally : Tally := { app.tally with
      total := app.requests.total + 1, limited := app.requests.limited + 1, buckets := buckets,
      denied := app.limiter.limiter.denied + 1 }
    exact ⟨tally, rfl, fun _ => ⟨rfl, rfl, rfl⟩⟩
  | @answered limiter response asks charged works =>
    obtain rfl := Option.some.inj answer
    obtain ⟨other, misses, looked⟩ := dispatch_rejected works rejected
    obtain ⟨tally, counted⟩ := charged.counting_eq
    let completed := app.requests.request.complete Duration.zero
    let left : Tally := { tally with
      total := completed.total, limited := completed.limited, completed := completed.completed,
      latencyMicros := completed.latencyMicros, misses := misses }
    refine ⟨left, ?_, fun limited => absurd limited other⟩
    rw [looked, counted]
    rfl
  | brokenOff => cases answer

end App

/-- A request that is answered 400 or above leaves what is stored, the live connections and what is known
about widgets as they were, in whatever state the program is. Only counts and the buckets of the
limiter change, and one that is turned away for its rate is neither looked up nor timed. Nor does it
open a connection. -/
theorem rejected_frame (app : App) (request : Request) (clock : Clock) {response : Response}
    (answered : (app.handle request clock).1 = some response) (rejected : 400 ≤ response.status) :
    let after := (app.handle request clock).2.1
    after.cache.store.entries = app.cache.store.entries ∧ after.hub = app.hub ∧
      after.metrics = app.metrics ∧ (∃ tally, after = app.withTally tally) ∧
      (response.status = 429 → after.cache = app.cache ∧
        after.requests.completed = app.requests.completed ∧
        after.requests.latencyMicros = app.requests.latencyMicros) ∧
      ∀ (connections : List (Nat × Live.Connection)) (nextNumber room : Nat),
        ∃ records, Site.connect ⟨app, connections, nextNumber⟩ request room clock =
          ((some response, none), ⟨after, connections, nextNumber⟩, records) := by
  intro after
  have passage := app.handle_passage request clock
  rw [answered] at passage
  obtain ⟨tally, left, limited⟩ := passage.rejected rejected
  have same : after = app.withTally tally := left
  refine ⟨by rw [same]; rfl, by rw [same]; rfl, by rw [same]; rfl, ⟨tally, same⟩, ?_, ?_⟩
  · intro turnedAway
    obtain ⟨misses, completed, latencyMicros⟩ := limited turnedAway
    rw [same]
    refine ⟨?_, completed, latencyMicros⟩
    rw [App.withTally, misses]
    rfl
  · intro connections nextNumber room
    -- only an upgrade that is accepted opens a connection, and its status is below 400
    have closed : response.status ≠ Upgrade.accepted.status :=
      fun opened => absurd (opened ▸ rejected) (by decide)
    refine ⟨(app.handle request clock).2.2, ?_⟩
    simp only [Site.connect, answered, closed, if_false]
    rfl

/-- With a budget of two requests the second, which looks for data under another key, is answered 404, and
the third 429. What the first one stored stays, and one look-up in vain is counted. -/
theorem rejected_frame_missed_and_limited :
    ∃ (config : Config) (clock : Clock) (post get : Request),
      let stored := (History.of config clock [.request post clock]).app
      let missed := stored.handle get clock
      let limited := missed.2.1.handle get clock
      missed.1.map Response.status = some 404 ∧ limited.1.map Response.status = some 429 ∧
        limited.2.1.cache.store.entries.map Prod.fst = ["w/k"] ∧
        limited.2.1.hub = stored.hub ∧ limited.2.1.metrics.updatesOf "w" = 1 ∧
        limited.2.1.cache.store.misses = 1 ∧ limited.2.1.requests.completed = 2 := by
  let config : Config := { Config.standard with rateLimit := ⟨true, 2.0, 3600⟩ }
  let clock : Clock := ⟨⟨0⟩, ⟨0⟩⟩
  let post : Request := ⟨.post, "/api/v1/widgets/w/data".toList,
    [⟨"content-type", "application/json".toList⟩],
    "\x7b\"key\":\"k\",\"value\":1\x7d".toUTF8.toList, none, false⟩
  let get : Request := ⟨.get, "/api/v1/widgets/w/data/other".toList, [], [], none, false⟩
  refine ⟨config, clock, post, get, ?_⟩
  intro stored missed limited
  have missedStatus : missed.1.map Response.status = some 404 := by decide +kernel
  have limitedStatus : limited.1.map Response.status = some 429 := by decide +kernel
  obtain ⟨first, firstAnswer, firstStatus⟩ := Option.map_eq_some_iff.mp missedStatus
  obtain ⟨second, secondAnswer, secondStatus⟩ := Option.map_eq_some_iff.mp limitedStatus
  obtain ⟨firstEntries, firstHub, firstMetrics, -⟩ :=
    rejected_frame stored get clock firstAnswer (by rw [firstStatus]; decide)
  obtain ⟨entries, hub, metrics, -, untimed, -⟩ :=
    rejected_frame missed.2.1 get clock secondAnswer (by rw [secondStatus]; decide)
  obtain ⟨cache, completed, -⟩ := untimed secondStatus
  have storedEntries : stored.cache.store.entries.map Prod.fst = ["w/k"] := by decide +kernel
  have storedUpdates : stored.metrics.updatesOf "w" = 1 := by decide +kernel
  have missedMisses : missed.2.1.cache.store.misses = 1 := by decide +kernel
  have missedCompleted : missed.2.1.requests.completed = 2 := by decide +kernel
  have kept : limited.2.1.cache.store.entries = stored.cache.store.entries :=
    entries.trans firstEntries
  have known : limited.2.1.metrics = stored.metrics := metrics.trans firstMetrics
  refine ⟨missedStatus, limitedStatus, ?_, hub.trans firstHub, ?_, ?_, completed.trans missedCompleted⟩
  · rw [kept, storedEntries]
  · rw [known, storedUpdates]
  · rw [cache, missedMisses]

end Dashboard.Web
