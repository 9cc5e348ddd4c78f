import Dashboard.Startup
import Dashboard.Web.Site
import Std.Time.DateTime.Timestamp

open Dashboard

namespace Dashboard.Main

def readClock : IO Clock := do
  let wall ← Std.Time.Timestamp.now
  return ⟨⟨(← IO.monoNanosNow)⟩, ⟨wall.toNanosecondsSinceUnixEpoch.val⟩⟩

def log (console : Log.Console) (records : List Log.Record) : IO Unit := do
  for line in console.allLines (← readClock).wall records do
    IO.eprintln line

/-- The working directory and what is found at a path from it. -/
def readFiles (path : String) : IO Files := do
  let home := toString (← IO.currentDir)
  let files := Files.within ((Files.components home).filter (· ≠ ""))
  try
    let bytes ← IO.FS.readBinFile path
    return files.putFile path bytes.toList
  catch
    | .inappropriateType _ 21 _ => return files.makeDirectory path
    | _ => return files

def requestOf? (line : String) : Option Http.Request :=
  match Text.fields ' ' line.trimAsciiEnd.toString.toList with
  | method :: target :: body =>
    let body := String.intercalate " " (body.map String.ofList)
    Http.Request.ofParts? (String.ofList method) (String.ofList target)
      [("content-type", "application/json")] (Text.Utf8.encode body) none false
  | _ => none

/-- A run of the program on a machine that tells no figures. -/
def readMachine : IO Metrics.SystemSnapshot.Machine := do
  let random ← IO.getRandomBytes 16
  return ⟨.ofRandom (.ofFn fun place => random.get! place), 0, 0, 0, 0, 1, 0⟩

def printResponse (machine : Metrics.SystemSnapshot.Machine) (response : Web.Response) :
    IO Unit := do
  IO.println (toString response.status)
  match response.body with
  | .text content => IO.println content
  | .report report =>
    IO.println (Json.Value.object (Web.App.reportMembers report machine)).text

/-- Answers one request after another until there are no more. -/
partial def serve (console : Log.Console) (machine : Metrics.SystemSnapshot.Machine)
    (input : IO.FS.Stream) (app : Web.App) : IO Web.App := do
  let line ← input.getLine
  if line.isEmpty then return app
  match requestOf? line with
  | none =>
    IO.println "400"
    serve console machine input app
  | some request =>
    let (response, app, records) := app.handle request (← readClock)
    log console records
    response.forM (printResponse machine)
    serve console machine input app

end Dashboard.Main

open Dashboard.Main in
def main (arguments : List String) : IO UInt32 := do
  let arguments := "dashhub" :: arguments
  match CommandLine.parse arguments with
  | .error refusal => return UInt32.ofNat refusal.exitCode
  | .ok line =>
    let console : Log.Console := ⟨.ofArguments arguments, true⟩
    let files ← readFiles (Startup.configPath line)
    let (result, _, records) := Startup.loadConfig line .empty files
    log console records
    match result with
    | .error failed =>
      IO.eprintln ("Error: " ++ (failed.context.map (· ++ ": ")).getD "" ++ failed.cause.text)
      return 1
    | .ok config =>
      log console [Startup.startRecord config]
      let (app, records) := Web.App.start config (← readClock)
      log console records
      let app ← serve console (← readMachine) (← IO.getStdin) app
      log console (app.stopHub.2 ++ [Startup.stopRecord])
      return 0
