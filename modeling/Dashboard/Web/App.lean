import Dashboard.Cache.Service
import Dashboard.Config.Basic
import Dashboard.Hub.Service
import Dashboard.Json.Value
import Dashboard.Metrics.Collector
import Dashboard.Metrics.Requests
import Dashboard.RateLimit.Service

namespace Dashboard.Web

/-- The parts of the program that requests are answered from. -/
structure App where
  settings : Config.Webserver
  hub : Hub.Service
  limiter : RateLimit.Service
  limitsRequests : Bool
  cache : Cache.Service Json.Value
  metrics : Metrics.Collector
  requests : Metrics.Requests
  started : WallTime

namespace App

def start (config : Config) (clock : Clock) : App × List Log.Record :=
  let (hub, records) := Hub.Service.start config.hub
  ({  settings := config.webserver
      hub := hub
      limiter := .perMinute config.rateLimit.requestsPerMinute
      limitsRequests := config.rateLimit.enabled
      cache := .start config.cache.settings
      metrics := .start config.metrics.windowSize clock.reading
      requests := .start clock.reading
      started := clock.wall }, records)

/-- Whole seconds of wall-clock time since the start, zero before it. -/
def uptimeSeconds (app : App) (time : WallTime) : Nat :=
  (Int.fdiv (time.nanos - app.started.nanos) 1000000000).toNat

/-- Starts the sweepers of the limiter and of the cache. -/
def spawnSweepers (app : App) (limit : Config.RateLimit) (now : Instant) : App :=
  { app with
    cache := app.cache.spawnSweeper now
    limiter := app.limiter.spawnSweeper limit.sweepInterval now }

def stopSweepers (app : App) : App × List Log.Record :=
  let (cache, records) := app.cache.stopSweeper
  let (limiter, more) := app.limiter.stopSweeper
  ({ app with cache := cache, limiter := limiter }, records ++ more)

def runSweepers (app : App) (wheel : Background.Wheel) (now : Instant) : App × List Log.Record :=
  let (cache, records) := app.cache.run wheel now
  let (limiter, more) := app.limiter.run wheel now
  ({ app with cache := cache, limiter := limiter }, records ++ more)

def stopHub (app : App) : App × List Log.Record :=
  let (hub, records) := app.hub.stop
  ({ app with hub := hub }, records)

end App
end Dashboard.Web
