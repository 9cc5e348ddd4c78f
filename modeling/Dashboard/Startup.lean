import Dashboard.CommandLine
import Dashboard.Config.Store

namespace Dashboard.Startup

/-- Why the settings could not be put in place: which file was being loaded, if it was that, and
the error. -/
structure Failure where
  context : Option String
  cause : Config.StoreError

def configPath (line : CommandLine) : String := line.config.getD Config.standardPath

def override (line : CommandLine) (config : Config) : Config :=
  { config with
    webserver := { config.webserver with
      host := line.host.getD config.webserver.host
      port := line.port.getD config.webserver.port }
    rateLimit := { config.rateLimit with
      requestsPerMinute := line.requestsPerMinute.getD config.rateLimit.requestsPerMinute } }

def version : String := "0.1.0"

def startRecord (config : Config) : Log.Record :=
  ⟨.system, .info, "dashhub " ++ version ++ " starting (rate limit: " ++
    (if config.rateLimit.enabled then "on" else "off") ++ ", " ++
    Decimal.Style.plain.text config.rateLimit.requestsPerMinute ++ " req/min)"⟩

def stopRecord : Log.Record := ⟨.system, .info, "dashhub stopped"⟩

/-- Reads the settings, overrides them and puts them in place. -/
def loadConfig (line : CommandLine) (store : Config.Store) (files : Files) :
    Except Failure Config × Config.Store × List Log.Record :=
  let path := configPath line
  match Config.readOrStandard files path with
  | (.error error, records) => (.error ⟨some ("loading " ++ path), error⟩, store, records)
  | (.ok config, records) =>
    let config := override line config
    match store.install config with
    | (.error error, store) => (.error ⟨none, error⟩, store, records)
    | (.ok _, store) => (.ok config, store, records)

end Dashboard.Startup
