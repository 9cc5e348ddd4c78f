import Dashboard.Proofs.Web.ChangeEffect
import Dashboard.Proofs.Web.WidgetStore

namespace Dashboard.Web

open Http (Request)

/-- A change to the data of a widget, and whether the hub has taken its announcement. -/
structure Announcement where
  change : Change
  isTaken : Bool

/-- A request that was answered 201 or 204 has changed data. -/
def Exchange.IsTold (exchange : Exchange) : Prop :=
  ∀ status, exchange.status = some status → status = 201 ∨ status = 204 →
    exchange.change?.isSome = true

namespace Happening

/-- The change that a happening makes to a program. -/
def announcement? (app : App) : Happening → Option Announcement
  | .request asked clock =>
    (Exchange.change? ⟨asked, clock, (app.handle asked clock).1.map Response.status⟩).map
      fun made => ⟨made, app.hub.isRunning⟩
  | _ => none

end Happening

namespace History

/-- The changes that are made in the course of a run. -/
def announcements (history : History) : List Happening → List Announcement
  | [] => []
  | happening :: rest =>
    (happening.announcement? history.app).toList ++ (history.next happening).announcements rest

def run (history : History) (happenings : List Happening) : History := happenings.foldl next history

theorem next_counts (history : History) (happening : Happening) (widget : String) :
    let made := (happening.announcement? history.app).toList
    (history.next happening).app.metrics.updatesOf widget = history.app.metrics.updatesOf widget +
        made.countP (fun entry => entry.change.widget = widget ∧ entry.change.action = .updated) ∧
      (history.next happening).app.metrics.errorsOf widget = history.app.metrics.errorsOf widget +
        made.countP fun entry => entry.change.widget = widget ∧ entry.isTaken = false := by
  cases happening with
  | request request clock =>
    have told := history.app.handle_told request clock
    have updates := told.updates widget
    have errors := told.errors widget
    simp only [next, Happening.announcement?]
    rw [updates, errors]
    cases Exchange.change? ⟨request, clock, (history.app.handle request clock).1.map Response.status⟩ with
    | none => simp
    | some made => cases running : history.app.hub.isRunning <;> simp
  | sweep wheel now => exact ⟨rfl, rfl⟩
  | spawnSweepers limit now => exact ⟨rfl, rfl⟩
  | stopSweepers => exact ⟨rfl, rfl⟩
  | live hub => exact ⟨rfl, rfl⟩

theorem run_counts (history : History) (happenings : List Happening) (widget : String) :
    let made := history.announcements happenings
    (history.run happenings).app.metrics.updatesOf widget = history.app.metrics.updatesOf widget +
        made.countP (fun entry => entry.change.widget = widget ∧ entry.change.action = .updated) ∧
      (history.run happenings).app.metrics.errorsOf widget = history.app.metrics.errorsOf widget +
        made.countP fun entry => entry.change.widget = widget ∧ entry.isTaken = false := by
  induction happenings generalizing history with
  | nil => exact ⟨rfl, rfl⟩
  | cons happening rest inductionHypothesis =>
    obtain ⟨updates, errors⟩ := inductionHypothesis (history.next happening)
    obtain ⟨updatesNext, errorsNext⟩ := history.next_counts happening widget
    simp only [announcements, List.countP_append]
    constructor
    · rw [← Nat.add_assoc, ← updatesNext]
      exact updates
    · rw [← Nat.add_assoc, ← errorsNext]
      exact errors

/-- The requests of a run, with their answers, tell the changes. -/
theorem run_exchanges (history : History) (happenings : List Happening) :
    (history.run happenings).exchanges.filterMap Exchange.change? =
        history.exchanges.filterMap Exchange.change? ++
          (history.announcements happenings).map Announcement.change ∧
      ((∀ exchange ∈ history.exchanges, exchange.IsTold) →
        ∀ exchange ∈ (history.run happenings).exchanges, exchange.IsTold) := by
  induction happenings generalizing history with
  | nil => exact ⟨(List.append_nil _).symm, id⟩
  | cons happening rest inductionHypothesis =>
    obtain ⟨changes, told⟩ := inductionHypothesis (history.next happening)
    have first : (history.next happening).exchanges.filterMap Exchange.change? =
        history.exchanges.filterMap Exchange.change? ++
          (happening.announcement? history.app).toList.map Announcement.change := by
      cases happening with
      | request request clock =>
        simp only [next, Happening.announcement?, List.filterMap_append]
        refine congrArg _ ?_
        cases made : Exchange.change?
          ⟨request, clock, (history.app.handle request clock).1.map Response.status⟩ <;> simp [made]
      | sweep | spawnSweepers | stopSweepers | live => exact (List.append_nil _).symm
    refine ⟨?_, fun before => told ?_⟩
    · rw [announcements, List.map_append, ← List.append_assoc, ← first]
      exact changes
    · cases happening with
      | request request clock =>
        intro exchange present
        rcases List.mem_append.mp present with earlier | latest
        · exact before exchange earlier
        · obtain rfl := List.mem_singleton.mp latest
          intro status answered success
          have changed := history.app.handle_status request clock answered success
          rwa [← answered] at changed
      | sweep | spawnSweepers | stopSweepers | live => exact before

theorem action_of_announcements (history : History) (happenings : List Happening) :
    ∀ entry ∈ history.announcements happenings,
      entry.change.action = .updated ∨ entry.change.action = .deleted := by
  induction happenings generalizing history with
  | nil => nofun
  | cons happening rest inductionHypothesis =>
    intro entry present
    rcases List.mem_append.mp present with first | later
    · cases happening with
      | request request clock =>
        obtain ⟨made, changed, rfl⟩ := Option.map_eq_some_iff.mp (Option.mem_toList.mp first)
        exact Exchange.action_of_change? changed
      | sweep | spawnSweepers | stopSweepers | live => cases first
    · exact inductionHypothesis _ entry later

end History

/-- Stored data counts once, a refused announcement counts once: which changes count twice, and which do
not count at all. -/
theorem Announcement.count_balance (entries : List Announcement)
    (actions : ∀ entry ∈ entries, entry.change.action = .updated ∨ entry.change.action = .deleted) :
    entries.countP (·.change.action = .updated) + entries.countP (!·.isTaken) +
        entries.countP (fun entry => entry.change.action = .deleted ∧ entry.isTaken) =
      entries.length +
        entries.countP fun entry => entry.change.action = .updated ∧ entry.isTaken = false := by
  induction entries with
  | nil => rfl
  | cons entry rest inductionHypothesis =>
    have balance := inductionHypothesis fun entry later => actions entry (List.mem_cons_of_mem _ later)
    rcases actions entry List.mem_cons_self with updated | deleted
    · cases taken : entry.isTaken <;> simp [updated, taken] at balance ⊢ <;> omega
    · cases taken : entry.isTaken <;> simp [deleted, taken] at balance ⊢ <;> omega

/-- What the metrics know about a widget after any run: as many updates as data of it was stored, and as
many errors as announcements of its changes were refused. A change that was stored but not announced
so counts twice, and one that was erased and announced does not count. The changes are those that the
requests were answered 201 or 204 for. -/
theorem counts_of_announcements (config : Config) (clock : Clock) (happenings : List Happening)
    (widget : String) :
    let made := History.announcements ⟨(App.start config clock).1, []⟩ happenings
    let own := made.filter (·.change.widget = widget)
    let last := History.of config clock happenings
    last.app.metrics.updatesOf widget = own.countP (·.change.action = .updated) ∧
      last.app.metrics.errorsOf widget = own.countP (!·.isTaken) ∧
      last.app.metrics.updatesOf widget + last.app.metrics.errorsOf widget +
          own.countP (fun entry => entry.change.action = .deleted ∧ entry.isTaken) =
        own.length + own.countP (fun entry => entry.change.action = .updated ∧ entry.isTaken = false) ∧
      last.exchanges.filterMap Exchange.change? = made.map Announcement.change ∧
      ∀ exchange ∈ last.exchanges, exchange.IsTold := by
  intro made own last
  have start : last = History.run ⟨(App.start config clock).1, []⟩ happenings := rfl
  obtain ⟨updates, errors⟩ :=
    History.run_counts ⟨(App.start config clock).1, []⟩ happenings widget
  obtain ⟨changes, told⟩ := History.run_exchanges ⟨(App.start config clock).1, []⟩ happenings
  have initial : (App.start config clock).1.metrics.updatesOf widget = 0 ∧
      (App.start config clock).1.metrics.errorsOf widget = 0 := ⟨rfl, rfl⟩
  have updated : last.app.metrics.updatesOf widget = own.countP (·.change.action = .updated) := by
    rw [start, updates, initial.1, Nat.zero_add, List.countP_filter]
    exact List.countP_congr fun entry _ => by simp [and_comm]
  have refused : last.app.metrics.errorsOf widget = own.countP (!·.isTaken) := by
    rw [start, errors, initial.2, Nat.zero_add, List.countP_filter]
    exact List.countP_congr fun entry _ => by simp [and_comm]
  refine ⟨updated, refused, ?_, changes, told nofun⟩
  rw [updated, refused]
  exact Announcement.count_balance own fun entry present =>
    History.action_of_announcements _ happenings entry (List.mem_filter.mp present).1

/-- Data that is stored and erased again makes two changes, of which the metrics know one. -/
theorem counts_of_announcements_stored_and_erased :
    ∃ (config : Config) (clock : Clock) (post delete : Request),
      let happenings : List Happening := [.request post clock, .request delete clock]
      let made := History.announcements ⟨(App.start config clock).1, []⟩ happenings
      let last := History.of config clock happenings
      last.exchanges.map Exchange.status = [some 201, some 204] ∧
        made.map (fun entry => (entry.change.widget, entry.isTaken)) = [("w", true), ("w", true)] ∧
        last.app.metrics.updatesOf "w" + last.app.metrics.errorsOf "w" = 1 := by
  let config : Config := { Config.standard with rateLimit := ⟨false, 60.0, 3600⟩ }
  let post : Request := ⟨.post, "/api/v1/widgets/w/data".toList,
    [⟨"content-type", "application/json".toList⟩],
    "\x7b\"key\":\"k\",\"value\":1\x7d".toUTF8.toList, none, false⟩
  let delete : Request := ⟨.delete, "/api/v1/widgets/w/data/k".toList, [], [], none, false⟩
  let clock : Clock := ⟨⟨0⟩, ⟨0⟩⟩
  obtain ⟨updates, errors, -⟩ := counts_of_announcements config clock
    [.request post clock, .request delete clock] "w"
  refine ⟨config, clock, post, delete, ?_, ?_, (congrArg₂ (· + ·) updates errors).trans ?_⟩
  · decide +kernel
  · decide +kernel
  · decide +kernel

end Dashboard.Web
