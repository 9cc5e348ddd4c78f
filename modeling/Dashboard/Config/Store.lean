import Dashboard.Config.Reading
import Dashboard.Config.Text
import Dashboard.Files.Basic
import Dashboard.Log.Line

namespace Dashboard.Config

/-- Why settings cannot be read, written or put in place. -/
inductive StoreError where
  | read (path : String) (trouble : Files.Trouble)
  | parse (path : String) (error : ParseError)
  /-- A count is too great to be written. -/
  | tooGreat
  | write (path : String) (trouble : Files.Trouble)
  | alreadyInitialized
  | notInitialized
deriving Repr

/-- The text in front of what a malformed or misfit document has to say. -/
def StoreError.parseHead (path : String) : String := "failed to parse config file '" ++ path ++ "': "

def StoreError.text : StoreError → String
  | read path trouble => "failed to read config file '" ++ path ++ "': " ++ trouble.text
  | parse path (.misfit reason) => parseHead path ++ reason.text Decimal.Style.setting
  | parse path .malformed => parseHead path
  | tooGreat => "failed to serialize config: out-of-range value for u64 type"
  | write path trouble => "failed to write config file '" ++ path ++ "': " ++ trouble.text
  | alreadyInitialized => "config already initialized"
  | notInitialized => "config not initialized, call load_config() first"

/-- The path that is read when no other is given. -/
def standardPath : String := "data/config.toml"

def missingRecord (path : String) : Log.Record :=
  ⟨.config, .warning, "Config file '" ++ path ++ "' not found, using default values"⟩

def reloadedRecord (path : String) : Log.Record :=
  ⟨.config, .info, "Configuration reloaded from '" ++ path ++ "'"⟩

/-- The settings in a text that came from a path. -/
def parseFrom (path source : String) : Except StoreError Config :=
  (parse source).mapError (.parse path)

/-- The settings in a file that has to be there. -/
def readPresent (files : Files) (path : String) : Except StoreError Config :=
  match files.read path with
  | .error trouble => .error (.read path trouble)
  | .ok source => parseFrom path source

/-- The settings in a file, or the standard ones if there is no such file. -/
def readOrStandard (files : Files) (path : String) : Except StoreError Config × List Log.Record :=
  if files.contains path then (readPresent files path, [])
  else (.ok standard, [missingRecord path])

/-- The settings in force, if any were put in place. -/
structure Store where
  installed : Option Config

namespace Store

def empty : Store := ⟨none⟩

def current (store : Store) : Config := store.installed.getD .standard

def install (store : Store) (config : Config) : Except StoreError Unit × Store :=
  match store.installed with
  | some _ => (.error .alreadyInitialized, store)
  | none => (.ok (), ⟨some config⟩)

def load (store : Store) (files : Files) (path : String) :
    Except StoreError Unit × Store × List Log.Record :=
  match readOrStandard files path with
  | (.error error, records) => (.error error, store, records)
  | (.ok config, records) =>
    let (result, store) := store.install config
    (result, store, records)

/-- Replaces the settings in force by those of a file. -/
def reload (store : Store) (files : Files) (path : String) :
    Except StoreError Unit × Store × List Log.Record :=
  match readPresent files path with
  | .error error => (.error error, store, [])
  | .ok config =>
    match store.installed with
    | none => (.error .notInitialized, store, [])
    | some _ => (.ok (), ⟨some config⟩, [reloadedRecord path])

def save (store : Store) (files : Files) (path : String) : Except StoreError Files :=
  match store.current.written? with
  | none => .error .tooGreat
  | some text =>
    (files.write path (Text.Utf8.encode (String.ofList text))).mapError (.write path)

end Store
end Dashboard.Config
