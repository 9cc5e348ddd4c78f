import Dashboard.Json.Value
import Dashboard.Metrics.Collector
import Dashboard.Text.Hex

namespace Dashboard.Metrics

/-- The part of a snapshot of the process that does not depend on the machine. -/
structure SystemSnapshot where
  uptimeSeconds : Nat
  trackedWidgets : Nat
  collectedAt : WallTime
deriving DecidableEq, Repr

namespace SystemSnapshot

def take (collector : Collector) (clock : Clock) : SystemSnapshot :=
  ⟨(clock.reading.since collector.started).wholeSeconds, collector.tracked, clock.wall⟩

/-- Threads that run the program's tasks. -/
def workers : Nat := 1

/-- A session id is a random number of 128 bits in groups of hexadecimal digits. -/
def sessionIdLength : Nat := 8 + 4 * (1 + 4) + 8

/-- The digits of bytes, with a hyphen behind each group of the given sizes. -/
def hyphenated : List Nat → List UInt8 → List Char
  | [], bytes => bytes.flatMap Text.Hex.ofByte
  | size :: sizes, bytes =>
    (bytes.take size).flatMap Text.Hex.ofByte ++ '-' :: hyphenated sizes (bytes.drop size)

theorem length_hyphenated (sizes : List Nat) (bytes : List UInt8) :
    (hyphenated sizes bytes).length = 2 * bytes.length + sizes.length := by
  induction sizes generalizing bytes with
  | nil => exact Text.Hex.length_flatMap_ofByte bytes
  | cons size sizes inductionHypothesis =>
    rw [hyphenated, List.length_append, List.length_cons, inductionHypothesis,
      Text.Hex.length_flatMap_ofByte, List.length_take, List.length_drop, List.length_cons]
    omega

structure SessionId where
  text : String
  length_text : text.length = sessionIdLength

/-- The id made of random bits, six of which are replaced by the marks of a random id. -/
def SessionId.ofRandom (random : Vector UInt8 16) : SessionId :=
  let marked := (random.set 6 (random[6] &&& 0x0f ||| 0x40)).set 8 (random[8] &&& 0x3f ||| 0x80)
  ⟨String.ofList (hyphenated [4, 2, 2, 2] marked.toList), by
    rw [String.length_ofList, length_hyphenated]
    simp [sessionIdLength]⟩

/-- What a snapshot takes from outside: the id of this run and the figures of the machine. -/
structure Machine where
  session : SessionId
  processMemory : Nat
  processVirtualMemory : Nat
  totalMemory : Nat
  usedMemory : Nat
  processors : Nat
  aliveTasks : Nat

/-- The figures of a snapshot in the order in which they are written. -/
def fields : List (String × (SystemSnapshot → Machine → Json.Value)) :=
  [("session_id", fun _ machine => .string machine.session.text),
    ("process_memory_bytes", fun _ machine => .integer machine.processMemory),
    ("process_virtual_memory_bytes", fun _ machine => .integer machine.processVirtualMemory),
    ("system_memory_total_bytes", fun _ machine => .integer machine.totalMemory),
    ("system_memory_used_bytes", fun _ machine => .integer machine.usedMemory),
    ("cpu_count", fun _ machine => .integer machine.processors),
    ("runtime_workers", fun _ _ => .integer workers),
    ("runtime_alive_tasks", fun _ machine => .integer machine.aliveTasks),
    ("uptime_seconds", fun snapshot _ => .integer snapshot.uptimeSeconds),
    ("tracked_widgets", fun snapshot _ => .integer snapshot.trackedWidgets),
    ("collected_at", fun snapshot _ => .string snapshot.collectedAt.text)]

def members (snapshot : SystemSnapshot) (machine : Machine) : List (String × Json.Value) :=
  fields.map fun (name, figure) => (name, figure snapshot machine)

/-- The names of the figures in the order of the alphabet. -/
def fieldNames : List String := (fields.map Prod.fst).mergeSort

/-- Whatever the figures are, a snapshot is written with these names. -/
theorem mergeSort_members (snapshot : SystemSnapshot) (machine : Machine) :
    ((snapshot.members machine).map Prod.fst).mergeSort = fieldNames := by
  rw [members, List.map_map]
  rfl

end SystemSnapshot
end Dashboard.Metrics
