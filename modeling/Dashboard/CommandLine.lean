import Dashboard.Decimal.Reading

namespace Dashboard

namespace CommandLine

inductive Parameter where
  | config
  | host
  | port
  | requestsPerMinute
deriving DecidableEq, Repr

def Parameter.all : List Parameter := [.config, .host, .port, .requestsPerMinute]

def Parameter.name : Parameter → String
  | config => "config"
  | host => "host"
  | port => "port"
  | requestsPerMinute => "rate-limit-rpm"

inductive Switch where
  /-- Shows the debug records of the subsystem with this key. -/
  | debug (key : String)
  | verbose
  | quiet
deriving DecidableEq, Repr

/-- The subsystems whose debug records can be asked for. -/
def debugKeys : List String :=
  ["system", "config", "hub", "ratelimit", "cache", "metrics", "webserver", "external"]

def Switch.all : List Switch := debugKeys.map .debug ++ [.verbose, .quiet]

def Switch.name : Switch → String
  | debug key => "debug-" ++ key
  | verbose => "verbose"
  | quiet => "quiet"

/-- Why a command line is not carried out; the last two ask for a text instead. -/
inductive Refusal where
  | badValue
  | missingValue
  | repeated
  | unwantedValue
  | unknown
  | help
  | version
deriving DecidableEq, Repr

/-- Asking for a text is no failure. -/
def Refusal.exitCode : Refusal → Nat
  | help => 0
  | version => 0
  | _ => 2

end CommandLine

structure CommandLine where
  config : Option String
  host : Option String
  port : Option Nat
  requestsPerMinute : Option Float
  switches : List CommandLine.Switch
deriving Repr

namespace CommandLine

def empty : CommandLine := ⟨none, none, none, none, []⟩

def wholeNumber? (text : String) : Option Int :=
  let (negative, digits) := Decimal.takeSign text.toList
  if digits.isEmpty || !digits.all Char.isDigit then none
  else
    let size : Int := Decimal.digitsValue 0 digits
    some (if negative then -size else size)

def port? (text : String) : Option Nat :=
  match wholeNumber? text with
  | some number => if 0 ≤ number ∧ number < 65536 then some number.toNat else none
  | none => none

def isGiven (line : CommandLine) : Parameter → Bool
  | .config => line.config.isSome
  | .host => line.host.isSome
  | .port => line.port.isSome
  | .requestsPerMinute => line.requestsPerMinute.isSome

/-- Gives an option its value, unless it has one. -/
def give (line : CommandLine) (parameter : Parameter) (text : String) :
    Except Refusal CommandLine :=
  if line.isGiven parameter then .error .repeated
  else match parameter with
    | .config => .ok { line with config := some text }
    | .host => .ok { line with host := some text }
    | .port =>
      match port? text with
      | some port => .ok { line with port := some port }
      | none => .error .badValue
    | .requestsPerMinute =>
      match Decimal.float? text with
      | some number => .ok { line with requestsPerMinute := some number }
      | none => .error .badValue

def turnOn (line : CommandLine) (switch : Switch) : Except Refusal CommandLine :=
  if line.switches.contains switch then .error .repeated
  else .ok { line with switches := line.switches ++ [switch] }

/-- A command line as far as it is read. The value of the last option is looked at only when the
next option, or the end, has been reached. -/
structure Reading where
  line : CommandLine
  pending : Option (Parameter × Option String)
  /-- Whether `--` has ended the options. -/
  isClosed : Bool

def Reading.settle (reading : Reading) : Except Refusal CommandLine :=
  match reading.pending with
  | none => .ok reading.line
  | some (_, none) => .error .missingValue
  | some (parameter, some text) => reading.line.give parameter text

/-- The name of a long option and the value attached to it. -/
def splitOption (text : List Char) : String × Option String :=
  let name := text.takeWhile (· ≠ '=')
  match text.dropWhile (· ≠ '=') with
  | [] => (String.ofList name, none)
  | _ :: value => (String.ofList name, some (String.ofList value))

/-- Answers a request for a text once the pending value is settled. -/
def Reading.ask (reading : Reading) (request : Refusal) : Except Refusal Reading :=
  match reading.settle with
  | .ok _ => .error request
  | .error refusal => .error refusal

def Reading.long (reading : Reading) (text : List Char) : Except Refusal Reading :=
  let (name, value) := splitOption text
  match Parameter.all.find? (·.name == name) with
  | some parameter => do
    let line ← reading.settle
    match value with
    | some value => return ⟨← line.give parameter value, none, false⟩
    | none => return ⟨line, some (parameter, none), false⟩
  | none =>
    match Switch.all.find? (·.name == name) with
    | some switch =>
      if value.isSome then .error .unwantedValue
      else do
        let line ← reading.settle
        return ⟨← line.turnOn switch, none, false⟩
    | none =>
      if name = "help" ∨ name = "version" then
        if value.isSome then .error .unwantedValue
        else reading.ask (if name = "help" then .help else .version)
      else .error .unknown

def Reading.argument (reading : Reading) (text : String) : Except Refusal Reading :=
  if reading.isClosed then .error .unknown
  else match text.toList with
    | ['-', '-'] => .ok { reading with isClosed := true }
    | '-' :: '-' :: name => reading.long name
    | '-' :: letter :: _ =>
      if letter = 'h' then reading.ask .help
      else if letter = 'V' then reading.ask .version
      else .error .unknown
    | _ =>
      match reading.pending with
      | some (parameter, none) => .ok { reading with pending := some (parameter, some text) }
      | _ => .error .unknown

/-- What a list of arguments asks for; the first is the name of the program. -/
def parse (arguments : List String) : Except Refusal CommandLine := do
  let reading ← (arguments.drop 1).foldlM Reading.argument ⟨empty, none, false⟩
  reading.settle

end CommandLine
end Dashboard
