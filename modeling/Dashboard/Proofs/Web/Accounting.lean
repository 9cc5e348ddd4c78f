import Dashboard.Proofs.Web.Admission
import Dashboard.Proofs.Web.WidgetStore

namespace Dashboard

namespace RateLimit.Service

/-- Sweeps do not decide about requests, and find nothing where nobody has a bucket. -/
structure Sweeps (before after : Service) : Prop where
  allowed : after.limiter.allowed = before.limiter.allowed
  denied : after.limiter.denied = before.limiter.denied
  buckets : before.limiter.buckets = [] → after.limiter.buckets = []

theorem sweepMany_sweeps (service : Service) (now : Instant) (times : Nat) :
    Sweeps service (service.sweepMany now times).1 := by
  induction times with
  | zero => exact ⟨rfl, rfl, id⟩
  | succ times inductionHypothesis =>
    obtain ⟨allowed, denied, buckets⟩ := inductionHypothesis
    refine ⟨allowed, denied, fun noBuckets => ?_⟩
    simp [sweepMany, sweep, Limiter.sweep, buckets noBuckets]

theorem run_sweeps (service : Service) (wheel : Background.Wheel) (now : Instant) :
    Sweeps service (service.run wheel now).1 := by
  obtain ⟨allowed, denied, buckets⟩ := sweepMany_sweeps
    { service with sweepers := (service.sweepers.run wheel now).2 } now
    (service.sweepers.run wheel now).1
  exact ⟨allowed, denied, buckets⟩

end RateLimit.Service

namespace Web

open Http (Request)

namespace Exchange

/-- Whether a request is counted. A preflight is not, where answers are open to all. -/
def isCounted (settings : Config.Webserver) (exchange : Exchange) : Bool :=
  !(settings.corsEnabled && exchange.request.method == .options)

/-- Whether a request was turned away for its rate. -/
def isLimited (exchange : Exchange) : Bool := exchange.status == some 429

/-- Whether the work for a request broke off. -/
def isUnanswered (exchange : Exchange) : Bool := exchange.status.isNone

end Exchange

/-- The accounts of a program after the given requests. -/
structure Balanced (config : Config) (app : App) (exchanges : List Exchange) : Prop where
  settings : app.settings = config.webserver
  limitsRequests : app.limitsRequests = config.rateLimit.enabled
  total : app.requests.total = exchanges.countP (·.isCounted config.webserver)
  limited : app.requests.limited = exchanges.countP (·.isLimited)
  sum : app.requests.total =
    app.requests.limited + app.requests.completed + exchanges.countP (·.isUnanswered)
  charged : config.rateLimit.enabled = true →
    app.limiter.limiter.denied = app.requests.limited ∧
      app.limiter.limiter.allowed = app.requests.completed + exchanges.countP (·.isUnanswered)
  free : config.rateLimit.enabled = false →
    app.limiter.limiter.buckets = [] ∧ app.limiter.limiter.allowed = 0 ∧
      app.limiter.limiter.denied = 0 ∧ app.requests.limited = 0

namespace Balanced

variable {config : Config} {app after : App} {exchanges : List Exchange}

theorem start (config : Config) (clock : Clock) : Balanced config (App.start config clock).1 [] where
  settings := rfl
  limitsRequests := rfl
  total := rfl
  limited := rfl
  sum := rfl
  charged _ := ⟨rfl, rfl⟩
  free _ := ⟨rfl, rfl, rfl, rfl⟩

/-- The limiter after a request that was let through. -/
theorem of_charged (balanced : Balanced config app exchanges) {limiter : RateLimit.Service}
    (charged : app.Charged limiter) :
    (config.rateLimit.enabled = true → limiter.limiter.denied = app.requests.limited ∧
        limiter.limiter.allowed = app.requests.completed + exchanges.countP (·.isUnanswered) + 1) ∧
      (config.rateLimit.enabled = false → limiter.limiter.buckets = [] ∧
        limiter.limiter.allowed = 0 ∧ limiter.limiter.denied = 0 ∧ app.requests.limited = 0) := by
  cases charged with
  | free unlimited =>
    rw [balanced.limitsRequests] at unlimited
    exact ⟨fun enabled => by simp [unlimited] at enabled, balanced.free⟩
  | paid limits buckets =>
    rw [balanced.limitsRequests] at limits
    refine ⟨fun enabled => ?_, fun disabled => by simp [limits] at disabled⟩
    obtain ⟨denied, allowed⟩ := balanced.charged enabled
    exact ⟨denied, congrArg (· + 1) allowed⟩

/-- A request that was let through is timed or left without an answer; either way the accounts balance
with it. -/
theorem through (balanced : Balanced config app exchanges) {limiter : RateLimit.Service}
    {exchange : Exchange} (charged : app.Charged limiter)
    (counted : exchange.isCounted config.webserver = true) (unlimited : exchange.isLimited = false)
    (settings : after.settings = app.settings)
    (limitsRequests : after.limitsRequests = app.limitsRequests) (asked : after.limiter = limiter)
    (total : after.requests.total = app.requests.total + 1)
    (limited : after.requests.limited = app.requests.limited)
    (completed : after.requests.completed + (if exchange.isUnanswered then 1 else 0) =
      app.requests.completed + 1) : Balanced config after (exchanges ++ [exchange]) := by
  have unanswered : (exchanges ++ [exchange]).countP (·.isUnanswered) =
      exchanges.countP (·.isUnanswered) + if exchange.isUnanswered then 1 else 0 := by
    rw [List.countP_append, List.countP_singleton]
  have sum := balanced.sum
  obtain ⟨paid, free⟩ := balanced.of_charged charged
  refine ⟨settings.trans balanced.settings, limitsRequests.trans balanced.limitsRequests, ?_, ?_, ?_,
    ?_, ?_⟩
  · rw [total, balanced.total, List.countP_append, List.countP_singleton, if_pos counted]
  · rw [limited, balanced.limited, List.countP_append, List.countP_singleton, unlimited,
      if_neg Bool.false_ne_true, Nat.add_zero]
  · rw [total, limited, unanswered]
    omega
  · rw [asked, limited, unanswered]
    intro enabled
    obtain ⟨denied, allowed⟩ := paid enabled
    refine ⟨denied, ?_⟩
    omega
  · rw [asked, limited]
    exact free

/-- Whichever way a request goes, the accounts balance with it. -/
theorem request (balanced : Balanced config app exchanges) {request : Request} {clock : Clock}
    {status : Option Nat} (passage : app.Passage request clock status after) :
    Balanced config after (exchanges ++ [⟨request, clock, status⟩]) := by
  have asked : app.isPreflight request = !Exchange.isCounted config.webserver ⟨request, clock, status⟩ := by
    simp [App.isPreflight, Exchange.isCounted, balanced.settings]
  have total := balanced.total
  have limited := balanced.limited
  have sum := balanced.sum
  cases passage with
  | preflight asks =>
    have counted : Exchange.isCounted config.webserver ⟨request, clock, some 200⟩ = false := by
      simpa [asks] using asked
    exact ⟨balanced.settings, balanced.limitsRequests,
      by simpa [counted] using total, by simpa [Exchange.isLimited] using limited,
      by simpa [Exchange.isUnanswered] using sum, by simpa [Exchange.isUnanswered] using balanced.charged,
      balanced.free⟩
  | refused asks limits buckets =>
    have counted : Exchange.isCounted config.webserver ⟨request, clock, some 429⟩ = true := by
      simpa [asks] using asked
    have enabled : config.rateLimit.enabled = true := balanced.limitsRequests ▸ limits
    obtain ⟨denied, allowed⟩ := balanced.charged enabled
    refine ⟨balanced.settings, balanced.limitsRequests, ?_, ?_, ?_, fun _ => ⟨?_, ?_⟩, ?_⟩
    · simp [Metrics.Requests.refuse, Metrics.Requests.request, counted, total]
    · simp [Metrics.Requests.refuse, Metrics.Requests.request, Exchange.isLimited, limited]
    · simp [Metrics.Requests.refuse, Metrics.Requests.request, Exchange.isUnanswered] at sum ⊢
      omega
    · simp [Metrics.Requests.refuse, Metrics.Requests.request, RateLimit.Service.denying, denied]
    · simpa [Metrics.Requests.refuse, Metrics.Requests.request, RateLimit.Service.denying,
        Exchange.isUnanswered] using allowed
    · intro disabled
      simp [enabled] at disabled
  | @answered limiter response asks charged works =>
    have counted : Exchange.isCounted config.webserver ⟨request, clock, some response.status⟩ = true := by
      simpa [asks] using asked
    have other : response.status ≠ 429 := by
      intro same
      exact (App.dispatch_rejected works (by omega)).1 same
    have counts := (app.counting limiter).dispatch_sameCounts request clock
    exact balanced.through charged counted (by simpa [Exchange.isLimited] using other) counts.settings
      counts.limitsRequests counts.limiter rfl rfl rfl
  | @brokenOff limiter asks charged works =>
    have counted : Exchange.isCounted config.webserver ⟨request, clock, none⟩ = true := by
      simpa [asks] using asked
    have counts := (app.counting limiter).dispatch_sameCounts request clock
    have requests : ((app.counting limiter).dispatch request clock).2.1.requests =
        app.requests.request := counts.requests
    exact balanced.through charged counted rfl counts.settings counts.limitsRequests counts.limiter
      (by rw [requests]; rfl) (by rw [requests]; rfl) (by rw [requests]; rfl)

/-- Whatever leaves the requests and the decisions of the limiter alone keeps the balance. -/
theorem quiet (balanced : Balanced config app exchanges) (settings : after.settings = app.settings)
    (limitsRequests : after.limitsRequests = app.limitsRequests)
    (requests : after.requests = app.requests)
    (sweeps : RateLimit.Service.Sweeps app.limiter after.limiter) :
    Balanced config after exchanges where
  settings := settings.trans balanced.settings
  limitsRequests := limitsRequests.trans balanced.limitsRequests
  total := requests ▸ balanced.total
  limited := requests ▸ balanced.limited
  sum := requests ▸ balanced.sum
  charged := by
    rw [requests, sweeps.allowed, sweeps.denied]
    exact balanced.charged
  free disabled := by
    obtain ⟨buckets, allowed, denied, limited⟩ := balanced.free disabled
    rw [requests, sweeps.allowed, sweeps.denied]
    exact ⟨sweeps.buckets buckets, allowed, denied, limited⟩

theorem next {history : History} (balanced : Balanced config history.app history.exchanges)
    (happening : Happening) :
    Balanced config (history.next happening).app (history.next happening).exchanges := by
  have unswept : RateLimit.Service.Sweeps history.app.limiter history.app.limiter := ⟨rfl, rfl, id⟩
  cases happening with
  | request request clock => exact balanced.request (history.app.handle_passage request clock)
  | sweep wheel now =>
    exact balanced.quiet rfl rfl rfl (history.app.limiter.run_sweeps wheel now)
  | spawnSweepers | stopSweepers => exact balanced.quiet rfl rfl rfl ⟨rfl, rfl, id⟩
  | live hub => exact balanced.quiet rfl rfl rfl unswept

theorem run (config : Config) (clock : Clock) (happenings : List Happening) :
    Balanced config (History.of config clock happenings).app
      (History.of config clock happenings).exchanges := by
  induction happenings using List.reverseRecOn with
  | nil => exact start config clock
  | append_singleton happenings happening inductionHypothesis =>
    rw [History.of_append]
    exact inductionHypothesis.next happening

end Balanced

/-- After any run every counted request was turned away, timed or left without an answer, and the limiter
has denied and allowed as many; a limiter that is not asked knows nobody. Counted is every request
but preflights, which change nothing at all. -/
theorem accounts_balance (config : Config) (clock : Clock) (happenings : List Happening) :
    let last := History.of config clock happenings
    let requests := last.app.requests
    let limiter := last.app.limiter.limiter
    let unanswered := last.exchanges.countP (·.isUnanswered)
    requests.total = requests.limited + requests.completed + unanswered ∧
      requests.total = last.exchanges.countP (·.isCounted config.webserver) ∧
      requests.limited = last.exchanges.countP (·.isLimited) ∧
      (config.rateLimit.enabled = true →
        limiter.denied = requests.limited ∧ limiter.allowed = requests.completed + unanswered) ∧
      (config.rateLimit.enabled = false → limiter.tracked = 0 ∧ limiter.allowed = 0 ∧
        limiter.denied = 0 ∧ requests.limited = 0) ∧
      ∀ (request : Request) (later : Clock), config.webserver.corsEnabled = true →
        request.method = .options → (last.app.handle request later).2.1 = last.app := by
  intro last requests limiter unanswered
  have balanced : Balanced config last.app last.exchanges := .run config clock happenings
  refine ⟨balanced.sum, balanced.total, balanced.limited, balanced.charged, ?_, ?_⟩
  · intro disabled
    obtain ⟨buckets, counts⟩ := balanced.free disabled
    exact ⟨congrArg List.length buckets, counts⟩
  · intro request later isOpen options
    have asks : last.app.isPreflight request = true := by
      simp [App.isPreflight, balanced.settings, isOpen, options]
    simp [App.handle, App.shared, asks]

/-- With a budget of one request a preflight costs nothing, an unknown path is paid for, and the next request
is turned away. -/
theorem accounts_balance_of_three :
    ∃ (config : Config) (clock : Clock) (ask : Http.Method → Request),
      let last := History.of config clock
        [.request (ask .options) clock, .request (ask .get) clock, .request (ask .delete) clock]
      last.exchanges.map Exchange.status = [some 200, some 404, some 429] ∧
        last.app.requests.total = 2 ∧ last.app.limiter.limiter.denied = 1 ∧
        last.app.limiter.limiter.allowed = last.app.requests.completed := by
  let config : Config := { Config.standard with rateLimit := ⟨true, 1.0, 3600⟩ }
  let clock : Clock := ⟨⟨0⟩, ⟨0⟩⟩
  let ask (method : Http.Method) : Request := ⟨method, "/api/v1/unknown".toList, [], [], none, false⟩
  refine ⟨config, clock, ask, ?_⟩
  intro last
  have statuses : last.exchanges.map Exchange.status = [some 200, some 404, some 429] := by
    decide +kernel
  have counted : last.exchanges.countP (·.isCounted config.webserver) = 2 := by decide +kernel
  have limited : last.exchanges.countP (·.isLimited) = 1 := by decide +kernel
  have unanswered : last.exchanges.countP (·.isUnanswered) = 0 := by decide +kernel
  obtain ⟨-, total, turnedAway, charged, -⟩ := accounts_balance config clock
    [.request (ask .options) clock, .request (ask .get) clock, .request (ask .delete) clock]
  obtain ⟨denied, allowed⟩ := charged rfl
  refine ⟨statuses, ?_, ?_, ?_⟩
  · rw [total, counted]
  · rw [denied, turnedAway, limited]
  · rw [allowed, unanswered, Nat.add_zero]

end Web
end Dashboard
