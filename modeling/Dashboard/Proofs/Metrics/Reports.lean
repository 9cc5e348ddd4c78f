import Dashboard.Proofs.Metrics.Tracking
import Dashboard.Proofs.Metrics.Window

namespace Dashboard.Metrics

/-- A report on the work of a widget: an update, with the time it took and the time at which it was
done, or a failure. -/
inductive Report where
  | update (id : String) (span : Duration) (time : WallTime)
  | failure (id : String) (message : String)

namespace Report

/-- The widget that a report is about. -/
def id : Report → String
  | update id _ _ => id
  | failure id _ => id

def span? : Report → Option Duration
  | update _ span _ => some span
  | failure _ _ => none

def time? : Report → Option WallTime
  | update _ _ time => some time
  | failure _ _ => none

def message? : Report → Option String
  | update _ _ _ => none
  | failure _ message => some message

def about (id : String) (reports : List Report) : List Report := reports.filter (·.id = id)

theorem about_append (id : String) (reports : List Report) (report : Report) :
    about id (reports ++ [report]) =
      if report.id = id then about id reports ++ [report] else about id reports := by
  rw [about, List.filter_append]
  by_cases own : report.id = id
  · simp [about, own]
  · simp [about, own]

end Report

namespace Widget

/-- What the reports about a widget amount to: how many updates and failures there were, the latest of
each, and the latest durations. -/
def ofReports (size : Nat) (own : List Report) : Widget where
  updates := (own.filterMap Report.span?).length
  errors := (own.filterMap Report.message?).length
  lastUpdate := (own.filterMap Report.time?).getLast?
  window := .latest size (own.filterMap Report.span?)
  lastError := (own.filterMap Report.message?).getLast?

/-- What a report makes of a widget. -/
def apply (size : Nat) (widget : Widget) : Report → Widget
  | .update _ span time => widget.update size span time
  | .failure _ message => widget.fail message

theorem ofReports_nil (size : Nat) : ofReports size [] = silent := by
  simp [ofReports, silent, Window.latest, Window.empty, Window.sum]

theorem apply_ofReports (size : Nat) (own : List Report) (report : Report) :
    (ofReports size own).apply size report = ofReports size (own ++ [report]) := by
  cases report with
  | update id span time =>
    simp [ofReports, apply, update, List.filterMap_cons, Report.span?, Report.time?,
      Report.message?, Window.push_latest]
  | failure id message =>
    simp [ofReports, apply, fail, List.filterMap_cons, Report.span?, Report.time?,
      Report.message?]

end Widget

namespace Collector

def take (collector : Collector) : Report → Collector
  | .update id span time => collector.recordUpdate id span time
  | .failure id message => collector.recordError id message

def run (collector : Collector) (reports : List Report) : Collector := reports.foldl take collector

theorem take_eq_report (collector : Collector) (report : Report) :
    collector.take report =
      collector.report report.id (·.apply collector.windowSize report) := by
  cases report with
  | update id span time => rfl
  | failure id message => rfl

/-- A collector that knows what some reports tell, and nothing else. -/
structure Knows (size : Nat) (reports : List Report) (collector : Collector) : Prop where
  windowSize : collector.windowSize = size
  distinct : Association.Distinct collector.widgets
  widget : ∀ id, collector.find? id =
    if (Report.about id reports).isEmpty then none
    else some (.ofReports size (Report.about id reports))

namespace Knows

variable {size : Nat} {reports : List Report} {collector : Collector}

theorem start (windowSize : Nat) (now : Instant) :
    Knows (max windowSize 1) [] (.start windowSize now) where
  windowSize := rfl
  distinct := List.nodup_nil
  widget _ := rfl

/-- What is known of a widget before its next report, also if there was none yet. -/
theorem present (knows : Knows size reports collector) (id : String) :
    (collector.find? id).getD .silent = .ofReports size (Report.about id reports) := by
  rw [knows.widget]
  split
  · rename_i unreported
    rw [List.isEmpty_iff.mp unreported, Widget.ofReports_nil]
    rfl
  · rfl

theorem take (knows : Knows size reports collector) (report : Report) :
    Knows size (reports ++ [report]) (collector.take report) where
  windowSize := by
    rw [take_eq_report]
    exact knows.windowSize
  distinct := by
    rw [take_eq_report, Collector.report]
    exact knows.distinct.put report.id _
  widget id := by
    rw [take_eq_report, find?_report, Report.about_append, knows.windowSize, knows.present,
      Widget.apply_ofReports]
    by_cases own : id = report.id
    · subst own
      simp
    · rw [if_neg own, if_neg (Ne.symm own)]
      exact knows.widget id

theorem run (knows : Knows size reports collector) (more : List Report) :
    Knows size (reports ++ more) (collector.run more) := by
  induction more generalizing reports collector with
  | nil => simpa [Collector.run] using knows
  | cons report rest inductionHypothesis =>
    have later := inductionHypothesis (knows.take report)
    rwa [List.append_assoc, List.singleton_append] at later

theorem find?_eq_none (knows : Knows size reports collector) (id : String) :
    collector.find? id = none ↔ Report.about id reports = [] := by
  rw [knows.widget]
  split
  · rename_i unreported
    exact ⟨fun _ => List.isEmpty_iff.mp unreported, fun _ => rfl⟩
  · rename_i reported
    constructor
    · intro missing
      cases missing
    · intro unreported
      exact absurd (List.isEmpty_iff.mpr unreported) reported

theorem find?_eq_some (knows : Knows size reports collector) {id : String}
    (reported : Report.about id reports ≠ []) :
    collector.find? id = some (.ofReports size (Report.about id reports)) := by
  rw [knows.widget, if_neg]
  intro unreported
  exact reported (List.isEmpty_iff.mp unreported)

/-- There is room for every widget as long as a window of its size can be had. -/
theorem hasRoom (knows : Knows size reports collector) (bound : size ≤ 0x400000000) (id : String) :
    collector.hasRoom id = true := by
  have few : size ≤ largestWindow := Nat.le_trans bound (by decide)
  simp [Collector.hasRoom, knows.windowSize, few]

end Knows

/-- The reports about a widget before one of its updates, and the update, are no longer than any other. -/
theorem spans_of_update {early late : List Report} {id : String} {span : Duration} {time : WallTime}
    (short : ∀ other ∈ (early ++ .update id span time :: late).filterMap Report.span?,
      other ≤ Duration.longest) :
    ∀ other ∈ (Report.about id early).filterMap Report.span? ++ [span], other ≤ Duration.longest := by
  intro other present
  apply short
  rw [List.filterMap_append, List.mem_append]
  rcases List.mem_append.mp present with before | last
  · left
    exact (List.filter_sublist.filterMap Report.span?).subset before
  · right
    obtain rfl := List.mem_singleton.mp last
    simp [Report.span?]

/-- The metrics are told by the reports. A widget is known from its first report on, and what is known
of it depends on its own reports only; the window holds its latest durations, in their order, their
exact total, and the mean is that total over their number. As long as a window holds no more than 2^34
durations, every report finds room, and no update overflows the 128 bits of the total nor takes more off
it than there is. All widgets together are the reported ones, each known once. -/
theorem knowledge_of_reports (windowSize : Nat) (now : Instant) (reports : List Report)
    (bound : windowSize ≤ 0x400000000)
    (short : ∀ span ∈ reports.filterMap Report.span?, span ≤ Duration.longest) :
    let size := max windowSize 1
    let collector := (start windowSize now).run reports
    (∀ id, (collector.find? id = none ↔ Report.about id reports = []) ∧
        (Report.about id reports ≠ [] →
          collector.find? id = some (.ofReports size (Report.about id reports)))) ∧
      (∀ id widget, collector.find? id = some widget →
        widget.window.averageMilliseconds =
          if widget.updates = 0 then 0.0
          else Float.ofNat widget.window.totalNanos / 1000000.0 /
            Float.ofNat (min size widget.updates)) ∧
      (∀ id, collector.hasRoom id = true) ∧
      (∀ early id span time late, reports = early ++ .update id span time :: late →
        let window := ((((start windowSize now).run early).find? id).getD .silent).window
        window.pushWide? size span = some (window.push size span)) ∧
      Association.Distinct collector.widgets ∧
        ∀ id widget, (id, widget) ∈ collector.widgets ↔ collector.find? id = some widget := by
  intro size collector
  have positive : 0 < size := Nat.le_max_right _ _
  have small : size ≤ 0x400000000 := Nat.max_le.mpr ⟨bound, by decide⟩
  have knows : Knows size reports collector := (Knows.start windowSize now).run reports
  refine ⟨fun id => ⟨knows.find?_eq_none id, knows.find?_eq_some⟩, ?_, knows.hasRoom small, ?_,
    knows.distinct, knows.distinct.mem_iff⟩
  · intro id widget found
    have reported : Report.about id reports ≠ [] := by
      intro unreported
      rw [(knows.find?_eq_none id).mpr unreported] at found
      cases found
    obtain rfl := Option.some.inj ((knows.find?_eq_some reported).symm.trans found)
    exact Window.averageMilliseconds_latest positive _
  · rintro early id span time late rfl window
    have before : Knows size early ((start windowSize now).run early) :=
      (Knows.start windowSize now).run early
    -- the window before a report is that of the earlier reports
    have isLatest : window = .latest size ((Report.about id early).filterMap Report.span?) :=
      congrArg Widget.window (before.present id)
    rw [isLatest]
    exact Window.pushWide?_latest small (spans_of_update short)

/-- A window of two lets the longest of all durations go again, and neither the failures nor another
widget have anything to do with that. -/
theorem knowledge_of_reports_longest :
    ((start 2 ⟨0⟩).run [.update "w" .longest ⟨5⟩, .failure "w" "late", .update "v" ⟨7⟩ ⟨6⟩,
        .update "w" ⟨2000000⟩ ⟨8⟩, .update "w" ⟨4000000⟩ ⟨9⟩]).find? "w" =
      some ⟨3, 1, some ⟨9⟩, ⟨[⟨2000000⟩, ⟨4000000⟩], 6000000⟩, some "late"⟩ := by
  have known := knowledge_of_reports 2 ⟨0⟩ [.update "w" .longest ⟨5⟩, .failure "w" "late",
    .update "v" ⟨7⟩ ⟨6⟩, .update "w" ⟨2000000⟩ ⟨8⟩, .update "w" ⟨4000000⟩ ⟨9⟩] (by decide) (by decide)
  exact (known.1 "w").2 (List.cons_ne_nil _ _)

end Collector
end Dashboard.Metrics
