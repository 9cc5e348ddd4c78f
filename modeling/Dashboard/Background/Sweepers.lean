import Dashboard.Background.Task

namespace Dashboard.Background

structure Sweepers where
  current : Option Task
  replaced : List Task

namespace Sweepers

def none : Sweepers := ⟨.none, []⟩

/-- A new sweeper takes the place of the current one, which is not stopped. -/
def spawn (sweepers : Sweepers) (task : Task) : Sweepers :=
  ⟨some task, sweepers.replaced ++ sweepers.current.toList⟩

/-- Stops the current sweeper and answers what it logs. -/
def stop (sweepers : Sweepers) : List Log.Record × Sweepers :=
  match sweepers.current with
  | some task => (task.stopRecords, { sweepers with current := .none })
  | .none => ([], sweepers)

private def runAll (wheel : Wheel) (now : Instant) : List Task → Nat × List Task
  | [] => (0, [])
  | task :: rest =>
    let (ticks, task) := task.run wheel now
    let (others, rest) := runAll wheel now rest
    (ticks + others, task :: rest)

/-- Runs what is due at `now` and answers how many sweeps that asks for. -/
def run (sweepers : Sweepers) (wheel : Wheel) (now : Instant) : Nat × Sweepers :=
  let (others, replaced) := runAll wheel now sweepers.replaced
  match sweepers.current with
  | some task =>
    let (ticks, task) := task.run wheel now
    (ticks + others, ⟨some task, replaced⟩)
  | .none => (others, ⟨.none, replaced⟩)

end Sweepers
end Dashboard.Background
