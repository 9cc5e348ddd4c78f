import Dashboard.Association
import Dashboard.Log.Line
import Dashboard.Metrics.Widget

namespace Dashboard.Metrics

/-- Widgets in the order of their first report. -/
structure Collector where
  windowSize : Nat
  widgets : List (String × Widget)
  started : Instant
deriving Repr

namespace Collector

def standardWindow : Nat := 100

/-- The largest window for which a widget can be given room. -/
def largestWindow : Nat := 0x8000000000000000 / 16 - 1

/-- The window holds at least one duration. -/
def start (windowSize : Nat) (now : Instant) : Collector := ⟨max windowSize 1, [], now⟩

def find? (collector : Collector) (id : String) : Option Widget := collector.widgets.lookup id

def tracked (collector : Collector) : Nat := collector.widgets.length

/-- Applies a report to a widget, which is tracked from now on. -/
def report (collector : Collector) (id : String) (change : Widget → Widget) : Collector :=
  { collector with
    widgets := Association.put id (change ((collector.find? id).getD .silent)) collector.widgets }

def recordUpdate (collector : Collector) (id : String) (span : Duration) (time : WallTime) :
    Collector :=
  collector.report id (·.update collector.windowSize span time)

def recordError (collector : Collector) (id : String) (message : String) : Collector :=
  collector.report id (·.fail message)

/-- Whether a report of this widget can be kept: a new one needs room for a whole window. -/
def hasRoom (collector : Collector) (id : String) : Bool :=
  (collector.find? id).isSome || collector.windowSize ≤ largestWindow

def trackingRecords (collector : Collector) (id : String) : List Log.Record :=
  match collector.find? id with
  | some _ => []
  | none => [⟨.metrics, .debug, "Tracking widget " ++ id⟩]

def diagnostic (collector : Collector) : String :=
  "MetricsCollector \x7b window_size: " ++ toString collector.windowSize ++
    ", tracked_widgets: " ++ toString collector.tracked ++ " \x7d"

end Collector
end Dashboard.Metrics
