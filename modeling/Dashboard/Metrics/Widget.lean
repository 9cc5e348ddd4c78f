import Dashboard.Time.Clock

namespace Dashboard.Metrics

/-- The latest durations, oldest first, and their sum. -/
structure Window where
  durations : List Duration
  totalNanos : Nat
deriving DecidableEq, Repr

namespace Window

def empty : Window := ⟨[], 0⟩

/-- Adds a duration and drops the oldest ones beyond `size`. -/
def push (window : Window) (size : Nat) (span : Duration) : Window :=
  let durations := window.durations ++ [span]
  let excess := durations.length - size
  let dropped := (durations.take excess).foldl (fun total old => total + old.nanos) 0
  ⟨durations.drop excess, window.totalNanos + span.nanos - dropped⟩

def averageMilliseconds (window : Window) : Float :=
  if window.durations.isEmpty then 0.0
  else Float.ofNat window.totalNanos / 1000000.0 / Float.ofNat window.durations.length

end Window

/-- Reports are counted without a bound; `2 ^ 64` of one widget, which 64 bits do not hold, are more
than any run sees. -/
structure Widget where
  updates : Nat
  errors : Nat
  lastUpdate : Option WallTime
  window : Window
  lastError : Option String
deriving Repr

namespace Widget

def silent : Widget := ⟨0, 0, none, .empty, none⟩

def update (widget : Widget) (size : Nat) (span : Duration) (time : WallTime) : Widget :=
  { widget with
    updates := widget.updates + 1
    lastUpdate := some time
    window := widget.window.push size span }

def fail (widget : Widget) (message : String) : Widget :=
  { widget with errors := widget.errors + 1, lastError := some message }

end Widget
end Dashboard.Metrics
