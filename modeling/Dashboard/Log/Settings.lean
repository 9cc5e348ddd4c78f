import Dashboard.Log.Level
import Dashboard.Log.Tag

namespace Dashboard.Log

/-- The most talkative level shown, and the subsystems whose debug records are shown. -/
structure Settings where
  threshold : Level
  debugKeys : List String
deriving DecidableEq, Repr

namespace Settings

def standard : Settings := ⟨.info, []⟩

def debugKey? (argument : String) : Option String :=
  if "--debug-".toList.isPrefixOf argument.toList then
    some (String.ofList (argument.toList.drop 8))
  else none

/-- Reads one argument; every other argument is passed over. -/
def readArgument (settings : Settings) (argument : String) : Settings :=
  if argument = "--verbose" then { settings with threshold := .verbose }
  else if argument = "--quiet" then { settings with threshold := .warning }
  else match debugKey? argument with
    | some key =>
      if settings.debugKeys.contains key then settings
      else { settings with debugKeys := settings.debugKeys ++ [key] }
    | none => settings

/-- A debug key would be pointless under a threshold that hides debug records, so it raises
the threshold. -/
def raiseForDebug (settings : Settings) : Settings :=
  if settings.debugKeys ≠ [] ∧ settings.threshold < .debug then
    { settings with threshold := .debug }
  else settings

/-- The settings that a raw argument list asks for; of `--verbose` and `--quiet` the last
counts. -/
def ofArguments (arguments : List String) : Settings :=
  (arguments.foldl readArgument standard).raiseForDebug

/-- Errors are always shown and nothing above the threshold is; a debug record also needs its
subsystem's key, unless everything is shown. -/
def shows (settings : Settings) (tag : Tag) (level : Level) : Bool :=
  match level with
  | .error => true
  | .debug => !(settings.threshold < .debug) &&
      (settings.threshold = .verbose || settings.debugKeys.contains tag.key)
  | _ => !(settings.threshold < level)

end Settings
end Dashboard.Log
