import Dashboard.Metrics.Collector
import Dashboard.Proofs.Association

namespace Dashboard.Metrics.Collector

theorem find?_report (collector : Collector) (id other : String) (change : Widget → Widget) :
    (collector.report id change).find? other =
      if other = id then some (change ((collector.find? id).getD .silent))
      else collector.find? other := by
  rw [find?, report, Association.lookup_put]
  rfl

def updatesOf (collector : Collector) (id : String) : Nat :=
  ((collector.find? id).getD .silent).updates

def errorsOf (collector : Collector) (id : String) : Nat :=
  ((collector.find? id).getD .silent).errors

theorem updatesOf_recordUpdate (collector : Collector) (id other : String) (span : Duration)
    (time : WallTime) :
    (collector.recordUpdate id span time).updatesOf other =
      collector.updatesOf other + if id = other then 1 else 0 := by
  rw [updatesOf, recordUpdate, find?_report]
  by_cases same : other = id
  · simp [same, updatesOf, Widget.update]
  · simp [same, Ne.symm same, updatesOf]

theorem errorsOf_recordUpdate (collector : Collector) (id other : String) (span : Duration)
    (time : WallTime) :
    (collector.recordUpdate id span time).errorsOf other = collector.errorsOf other := by
  rw [errorsOf, recordUpdate, find?_report]
  by_cases same : other = id
  · simp [same, errorsOf, Widget.update]
  · simp [same, errorsOf]

theorem updatesOf_recordError (collector : Collector) (id other message : String) :
    (collector.recordError id message).updatesOf other = collector.updatesOf other := by
  rw [updatesOf, recordError, find?_report]
  by_cases same : other = id
  · simp [same, updatesOf, Widget.fail]
  · simp [same, updatesOf]

theorem errorsOf_recordError (collector : Collector) (id other message : String) :
    (collector.recordError id message).errorsOf other =
      collector.errorsOf other + if id = other then 1 else 0 := by
  rw [errorsOf, recordError, find?_report]
  by_cases same : other = id
  · simp [same, errorsOf, Widget.fail]
  · simp [same, Ne.symm same, errorsOf]

theorem hasRoom_recordError (collector : Collector) (id message : String) :
    (collector.recordError id message).hasRoom id = true := by
  simp [hasRoom, recordError, find?_report]

end Dashboard.Metrics.Collector
