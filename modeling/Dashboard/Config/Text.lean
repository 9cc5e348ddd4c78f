import Dashboard.Config.Basic
import Dashboard.Toml.Text

namespace Dashboard.Config

open Toml (Value)

def count (value : Nat) : Value := .integer value

def Hub.fields (hub : Hub) : List (String × Value) :=
  [("inbox_capacity", count hub.inboxCapacity),
    ("subscriber_buffer", count hub.subscriberBuffer)]

def RateLimit.fields (limit : RateLimit) : List (String × Value) :=
  [("enabled", .boolean limit.enabled),
    ("requests_per_minute", .float limit.requestsPerMinute),
    ("sweep_interval_secs", count limit.sweepIntervalSeconds)]

def Cache.fields (cache : Cache) : List (String × Value) :=
  [("default_ttl_secs", count cache.defaultTtlSeconds),
    ("sweep_interval_secs", count cache.sweepIntervalSeconds)]

def Metrics.fields (metrics : Metrics) : List (String × Value) :=
  [("window_size", count metrics.windowSize)]

def Webserver.fields (server : Webserver) : List (String × Value) :=
  [("host", .string server.host), ("port", count server.port),
    ("cors_enabled", .boolean server.corsEnabled),
    ("heartbeat_secs", count server.heartbeatSeconds),
    ("client_idle_timeout_secs", count server.clientIdleTimeoutSeconds)]

def sections (config : Config) : List (String × List (String × Value)) :=
  [("hub", config.hub.fields), ("rate_limit", config.rateLimit.fields),
    ("cache", config.cache.fields), ("metrics", config.metrics.fields),
    ("webserver", config.webserver.fields)]

/-- The text of settings, unless a count is too great to be written. -/
def written? (config : Config) : Option (List Char) := Toml.sections? config.sections

end Dashboard.Config
