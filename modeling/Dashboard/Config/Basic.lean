import Dashboard.Cache.Service
import Dashboard.Live.Health

namespace Dashboard

namespace Config

/-- How many commands may wait for the hub, and how many events for one subscriber. -/
structure Hub where
  inboxCapacity : Nat
  subscriberBuffer : Nat
deriving DecidableEq, Repr

/-- The budget of every client, which is also its greatest burst. -/
structure RateLimit where
  enabled : Bool
  requestsPerMinute : Float
  sweepIntervalSeconds : Nat
deriving Repr

structure Cache where
  defaultTtlSeconds : Nat
  sweepIntervalSeconds : Nat
deriving DecidableEq, Repr

/-- How many durations are kept for the average of a widget. -/
structure Metrics where
  windowSize : Nat
deriving DecidableEq, Repr

structure Webserver where
  host : String
  port : Nat
  corsEnabled : Bool
  heartbeatSeconds : Nat
  clientIdleTimeoutSeconds : Nat
deriving DecidableEq, Repr

end Config

structure Config where
  hub : Config.Hub
  rateLimit : Config.RateLimit
  cache : Config.Cache
  metrics : Config.Metrics
  webserver : Config.Webserver
deriving Repr

namespace Config

def Hub.standard : Hub := ⟨256, 256⟩
def RateLimit.standard : RateLimit := ⟨true, 60.0, 3600⟩
def Cache.standard : Cache := ⟨300, 60⟩
def Metrics.standard : Metrics := ⟨100⟩
def Webserver.standard : Webserver := ⟨"127.0.0.1", 8080, true, 30, 90⟩

def standard : Config := ⟨.standard, .standard, .standard, .standard, .standard⟩

/-- A number of seconds as a span of at least one second. -/
def atLeastOneSecond (seconds : Nat) : Duration := Duration.ofSeconds (max seconds 1)

def RateLimit.sweepInterval (limit : RateLimit) : Duration :=
  atLeastOneSecond limit.sweepIntervalSeconds

def Cache.settings (cache : Cache) : Dashboard.Cache.Settings :=
  ⟨Duration.ofSeconds cache.defaultTtlSeconds, atLeastOneSecond cache.sweepIntervalSeconds⟩

def pongTimeout : Duration := Duration.ofSeconds 10

def Webserver.health (server : Webserver) : Live.HealthSettings :=
  ⟨atLeastOneSecond server.heartbeatSeconds,
    atLeastOneSecond server.clientIdleTimeoutSeconds, pongTimeout⟩

end Config
end Dashboard
