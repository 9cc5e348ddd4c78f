import Dashboard.Config.Basic
import Dashboard.Schema.Record
import Dashboard.Toml.Document

namespace Dashboard.Config

open Schema (Misfit Field Record IntegerKind)

/-- What a TOML value is called where another kind of value was expected. -/
def found : Toml.Value → Schema.Found
  | .boolean value => .bool value
  | .integer value => .integer value
  | .float value => .float value
  | .string text => .string text
  | .datetime => .map
  | .array _ => .sequence
  | .table _ => .map

def asBoolean : Toml.Value → Except Misfit Bool
  | .boolean value => .ok value
  | value => .error (.wrongType (found value) "a boolean")

def asText : Toml.Value → Except Misfit String
  | .string text => .ok text
  | value => .error (.wrongType (found value) "a string")

/-- A whole number may stand for a float. -/
def asFloat : Toml.Value → Except Misfit Float
  | .float value => .ok value
  | .integer value => .ok (Float.ofInt value)
  | value => .error (.wrongType (found value) "f64")

def asCount (kind : IntegerKind) : Toml.Value → Except Misfit Nat
  | .integer value => (kind.check value).map Int.toNat
  | value => .error (.wrongType (found value) kind.name)

/-- A field that replaces a part of a section. -/
def setting {σ α : Type} (name : String) (decode : Toml.Value → Except Misfit α)
    (replace : σ → α → σ) : Field Toml.Value σ :=
  ⟨name, true, fun gathered value => (decode value).map (replace gathered)⟩

/-- A section of the given fields over its standard values. -/
def sectionOf {σ : Type} (name : String) (standard : σ) (fields : List (Field Toml.Value σ)) :
    Record Toml.Value σ σ := ⟨name, fields, standard, .ok⟩

/-- A section is a table, or the list of its first fields. A date is a table without fields. -/
def asSection {σ : Type} (record : Record Toml.Value σ σ) : Toml.Value → Except Misfit σ
  | .table entries => record.ofEntries entries
  | .array items => record.ofItems items
  | .datetime => .ok record.empty
  | value => .error (.wrongType (found value) record.name)

def hubSection : Record Toml.Value Hub Hub :=
  sectionOf "struct HubConfig" .standard [
    setting "inbox_capacity" (asCount .size) fun hub count => { hub with inboxCapacity := count },
    setting "subscriber_buffer" (asCount .size) fun hub count =>
      { hub with subscriberBuffer := count }]

def rateLimitSection : Record Toml.Value RateLimit RateLimit :=
  sectionOf "struct RateLimitConfig" .standard [
    setting "enabled" asBoolean fun limit enabled => { limit with enabled := enabled },
    setting "requests_per_minute" asFloat fun limit requests =>
      { limit with requestsPerMinute := requests },
    setting "sweep_interval_secs" (asCount .unsigned64) fun limit seconds =>
      { limit with sweepIntervalSeconds := seconds }]

def cacheSection : Record Toml.Value Cache Cache :=
  sectionOf "struct CacheSettings" .standard [
    setting "default_ttl_secs" (asCount .unsigned64) fun cache seconds =>
      { cache with defaultTtlSeconds := seconds },
    setting "sweep_interval_secs" (asCount .unsigned64) fun cache seconds =>
      { cache with sweepIntervalSeconds := seconds }]

def metricsSection : Record Toml.Value Metrics Metrics :=
  sectionOf "struct MetricsConfig" .standard [
    setting "window_size" (asCount .size) fun _ count => ⟨count⟩]

def webserverSection : Record Toml.Value Webserver Webserver :=
  sectionOf "struct WebserverConfig" .standard [
    setting "host" asText fun server host => { server with host := host },
    setting "port" (asCount .port) fun server port => { server with port := port },
    setting "cors_enabled" asBoolean fun server enabled => { server with corsEnabled := enabled },
    setting "heartbeat_secs" (asCount .unsigned64) fun server seconds =>
      { server with heartbeatSeconds := seconds },
    setting "client_idle_timeout_secs" (asCount .unsigned64) fun server seconds =>
      { server with clientIdleTimeoutSeconds := seconds }]

def document : Record Toml.Value Config Config :=
  sectionOf "struct Config" .standard [
    setting "hub" (asSection hubSection) fun config hub => { config with hub := hub },
    setting "rate_limit" (asSection rateLimitSection) fun config limit =>
      { config with rateLimit := limit },
    setting "cache" (asSection cacheSection) fun config cache => { config with cache := cache },
    setting "metrics" (asSection metricsSection) fun config metrics =>
      { config with metrics := metrics },
    setting "webserver" (asSection webserverSection) fun config server =>
      { config with webserver := server }]

inductive ParseError where
  | malformed
  | misfit (reason : Misfit)
deriving Repr

/-- The settings that a text gives; the first misfit in the order of the document counts. -/
def parse (source : String) : Except ParseError Config :=
  match Toml.parse source with
  | none => .error .malformed
  | some entries => (document.ofEntries entries).mapError .misfit

end Dashboard.Config
