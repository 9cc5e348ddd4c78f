import Dashboard.Background.Ticker
import Dashboard.Log.Line

namespace Dashboard.Background

inductive Phase where
  | waiting (ticker : Ticker)
  | failed

structure Task where
  name : String
  tag : Log.Tag
  phase : Phase

namespace Task

def shortestPeriod : Duration := Duration.ofMilliseconds 1

/-- A ticker whose first deadline is one period after `now`. -/
def ticker? (period : Duration) (now : Instant) : Option Ticker :=
  let period' := period.max shortestPeriod
  match now.add? period' with
  | none => none
  | some deadline =>
    if deadline ≤ Ticker.lastDeadline then
      some ⟨.delay, period', deadline, Nat.le_max_right _ _⟩
    else none

/-- Starts a task whose first tick is one full period away. -/
def start (name : String) (tag : Log.Tag) (period : Duration) (now : Instant) : Task :=
  ⟨name, tag, match ticker? period now with
    | some ticker => .waiting ticker
    | none => .failed⟩

def isFinished (task : Task) : Bool :=
  match task.phase with
  | .waiting _ => false
  | .failed => true

/-- Does what is due at `now` and answers how many ticks that were. -/
def run (task : Task) (wheel : Wheel) (now : Instant) : Nat × Task :=
  match task.phase with
  | .failed => (0, task)
  | .waiting ticker =>
    match ticker.run wheel now with
    | (ticks, some ticker) => (ticks, { task with phase := .waiting ticker })
    | (ticks, none) => (ticks, { task with phase := .failed })

/-- The work of the task panicked, which ends it. -/
def fail (task : Task) : Task := { task with phase := .failed }

def stopRecords (task : Task) : List Log.Record :=
  match task.phase with
  | .waiting _ => [⟨task.tag, .debug, task.name ++ " stopped"⟩]
  | .failed =>
    [⟨.system, .error, "Background task " ++ task.name ++ " failed: task panicked"⟩]

def diagnostic (task : Task) : String :=
  "BackgroundTask \x7b name: \"" ++ task.name ++ "\", finished: " ++
    (if task.isFinished then "true" else "false") ++ " \x7d"

end Task

/-- A task that counts its ticks; the tick of a given number may panic after counting. -/
structure Probe where
  task : Option Task
  ticks : Nat
  panicAt : Option Nat

namespace Probe

def run (probe : Probe) (wheel : Wheel) (now : Instant) : Probe :=
  match probe.task with
  | none => probe
  | some task =>
    let (ticks, task) := task.run wheel now
    match probe.panicAt with
    | some limit =>
      if probe.ticks < limit ∧ limit ≤ probe.ticks + ticks then
        { probe with task := some task.fail, ticks := limit }
      else { probe with task := some task, ticks := probe.ticks + ticks }
    | none => { probe with task := some task, ticks := probe.ticks + ticks }

end Probe
end Dashboard.Background
