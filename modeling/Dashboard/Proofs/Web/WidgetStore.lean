import Dashboard.Proofs.Web.DataEffect
import Mathlib.Data.List.Induction

/-! Data of widgets over a whole run of the program. A request for it is answered with what the latest
write of the same name has left. That write may have been to another widget, so that the data is a
map from pairs of a widget and a key only where no other pair has the name. -/

namespace Dashboard.Web

open Http (Request)
open Json (Value)

/-- What happens to the program. The live connections may leave the hub in any state. -/
inductive Happening where
  | request (request : Request) (clock : Clock)
  | sweep (wheel : Background.Wheel) (now : Instant)
  | spawnSweepers (limit : Config.RateLimit) (now : Instant)
  | stopSweepers
  | live (hub : Hub.Service)

namespace Happening

def reading? : Happening → Option Instant
  | request _ clock => some clock.reading
  | sweep _ now | spawnSweepers _ now => some now
  | stopSweepers | live _ => none

/-- The clock does not go backwards from one happening to the next. -/
def Ordered (happenings : List Happening) : Prop :=
  (happenings.filterMap reading?).Pairwise (· ≤ ·)

instance (happenings : List Happening) : Decidable (Ordered happenings) :=
  inferInstanceAs (Decidable (List.Pairwise _ _))

end Happening

/-- The program after a run, and the requests of the run with the statuses they were answered. -/
structure History where
  app : App
  exchanges : List Exchange

namespace History

def next (history : History) : Happening → History
  | .request request clock =>
    let (response, app, _) := history.app.handle request clock
    ⟨app, history.exchanges ++ [⟨request, clock, response.map Response.status⟩]⟩
  | .sweep wheel now => { history with app := (history.app.runSweepers wheel now).1 }
  | .spawnSweepers limit now => { history with app := history.app.spawnSweepers limit now }
  | .stopSweepers => { history with app := history.app.stopSweepers.1 }
  | .live hub => { history with app := { history.app with hub := hub } }

/-- The history of a program that is started with the given settings. -/
def of (config : Config) (clock : Clock) (happenings : List Happening) : History :=
  happenings.foldl next ⟨(App.start config clock).1, []⟩

theorem of_append (config : Config) (clock : Clock) (happenings : List Happening)
    (happening : Happening) :
    of config clock (happenings ++ [happening]) = (of config clock happenings).next happening := by
  simp [of]

/-- The changes to data that the requests have made. -/
def writes (history : History) (standard : Duration) : List Write :=
  history.exchanges.filterMap (·.write? standard)

/-- What is true of a history at every reading of the clock from `now` on: the data is what the writes
have left of it. -/
structure Sound (history : History) (config : Config) (now : Instant) : Prop where
  standard : history.app.cache.settings.defaultTtl = config.cache.settings.defaultTtl
  windowSize : history.app.metrics.windowSize = max config.metrics.windowSize 1
  distinct : Association.Distinct history.app.cache.store.entries
  values : ∀ name later, now ≤ later → history.app.cache.store.valueAt name later =
    Write.latest (history.writes config.cache.settings.defaultTtl) (·.name = name) later
  answered : max config.metrics.windowSize 1 ≤ Metrics.Collector.largestWindow →
    ∀ exchange ∈ history.exchanges,
      (exchange.write? config.cache.settings.defaultTtl).isSome = true → exchange.status.isSome = true

namespace Sound

variable {history : History} {config : Config} {now later : Instant}

theorem start (config : Config) (clock : Clock) (now : Instant) :
    Sound ⟨(App.start config clock).1, []⟩ config now where
  standard := rfl
  windowSize := rfl
  distinct := List.nodup_nil
  values _ _ _ := rfl
  answered _ _ present := by cases present

theorem request (sound : history.Sound config now) (request : Request) (clock : Clock)
    (order : now ≤ clock.reading) :
    (history.next (.request request clock)).Sound config clock.reading := by
  have effect := history.app.handle_effect request clock
  rw [sound.standard] at effect
  refine ⟨?_, effect.windowSize.trans sound.windowSize, effect.distinct sound.distinct, ?_, ?_⟩
  · exact (congrArg _ effect.settings).trans sound.standard
  · intro name later after
    have before := sound.values name later (Instant.le_trans order after)
    refine (effect.values name later).trans ?_
    simp only [writes, next, List.filterMap_append, List.filterMap_cons, List.filterMap_nil]
    cases wrote : Exchange.write? ⟨request, clock,
        (history.app.handle request clock).1.map Response.status⟩
        config.cache.settings.defaultTtl with
    | none => simpa [writes] using before
    | some write => simp [Write.latest_append, before, writes]
  · intro room exchange present
    rcases List.mem_append.mp present with earlier | latest
    · exact sound.answered room exchange earlier
    · obtain rfl := List.mem_singleton.mp latest
      exact effect.answered (sound.windowSize ▸ room)

/-- A change of the program that leaves the data as it will be found. -/
theorem quiet (sound : history.Sound config now) (app : App) (order : now ≤ later)
    (settings : app.cache.settings = history.app.cache.settings)
    (metrics : app.metrics = history.app.metrics)
    (distinct : Association.Distinct app.cache.store.entries)
    (values : ∀ name last, later ≤ last →
      app.cache.store.valueAt name last = history.app.cache.store.valueAt name last) :
    Sound { history with app := app } config later where
  standard := (congrArg _ settings).trans sound.standard
  windowSize := (congrArg _ metrics).trans sound.windowSize
  distinct := distinct
  values name last after :=
    (values name last after).trans (sound.values name last (Instant.le_trans order after))
  answered := sound.answered

theorem sweep (sound : history.Sound config now) (wheel : Background.Wheel) (order : now ≤ later) :
    (history.next (.sweep wheel later)).Sound config later := by
  obtain ⟨sweepers, times, swept⟩ := history.app.cache.run_eq_sweepMany wheel later
  refine sound.quiet (history.app.runSweepers wheel later).1 order ?_ rfl ?_ ?_
  · exact (congrArg _ swept).trans (Cache.Service.sweepMany_settings _ later times)
  · change Association.Distinct (history.app.cache.run wheel later).1.store.entries
    rw [swept]
    exact Cache.Service.sweepMany_distinct { history.app.cache with sweepers := sweepers }
      sound.distinct later times
  · intro name last after
    change (history.app.cache.run wheel later).1.store.valueAt name last = _
    rw [swept]
    exact Cache.Service.sweepMany_valueAt { history.app.cache with sweepers := sweepers }
      sound.distinct name after times

theorem mono (sound : history.Sound config now) (order : now ≤ later) :
    history.Sound config later :=
  sound.quiet history.app order rfl rfl sound.distinct fun _ _ _ => rfl

theorem step (sound : history.Sound config now) (happening : Happening)
    (order : ∀ reading, happening.reading? = some reading → now ≤ reading) :
    (history.next happening).Sound config (happening.reading?.getD now) := by
  cases happening with
  | request request clock => exact sound.request request clock (order _ rfl)
  | sweep wheel later => exact sound.sweep wheel (order _ rfl)
  | spawnSweepers limit later =>
    exact sound.quiet _ (order _ rfl) rfl rfl sound.distinct fun _ _ _ => rfl
  | stopSweepers =>
    exact sound.quiet _ (Instant.le_refl now) rfl rfl sound.distinct fun _ _ _ => rfl
  | live hub =>
    exact sound.quiet _ (Instant.le_refl now) rfl rfl sound.distinct fun _ _ _ => rfl

end Sound

/-- The data is sound at every reading of the clock that is not before the run. -/
theorem of_sound (config : Config) (clock : Clock) {happenings : List Happening} {now : Instant}
    (ordered : (happenings.filterMap Happening.reading? ++ [now]).Pairwise (· ≤ ·)) :
    (of config clock happenings).Sound config now := by
  induction happenings using List.reverseRecOn generalizing now with
  | nil => exact Sound.start config clock now
  | append_singleton happenings happening inductionHypothesis =>
    rw [of_append]
    cases read : happening.reading? with
    | none =>
      have sound : (of config clock happenings).Sound config now :=
        inductionHypothesis (by simpa [read] using ordered)
      simpa [read] using sound.step happening (by simp [read])
    | some reading =>
      rw [List.filterMap_append, List.pairwise_append] at ordered
      obtain ⟨before, -, after⟩ := ordered
      have sound : (of config clock happenings).Sound config reading :=
        inductionHypothesis (by simpa [read] using before)
      have stepped := sound.step happening (by simp [read, Instant.le_refl])
      rw [read] at stepped
      exact stepped.mono (after reading (by simp [read]) now (by simp))

end History

/-- Whether a request asks for the data of a widget under a key. -/
structure AsksFor (request : Request) (widget key : String) : Prop where
  method : request.method = .get
  names : ∃ widgetText keyText, actionOf request = some (.load widgetText keyText) ∧
    Http.Percent.decode? widgetText = some widget ∧ Http.Percent.decode? keyText = some key

/-- Whether a response is the one to a look-up that finds the given value, or nothing. Headers do not
count. -/
def Answers (response? : Option Response) (widget key : String) (found? : Option Value) : Prop :=
  ∃ response, response? = some response ∧
    response.status = (App.lookedUp widget key found?).status ∧
    response.body = (App.lookedUp widget key found?).body

theorem History.writes_key_ne_empty {history : History} {standard : Duration} {write : Write}
    (present : write ∈ history.writes standard) : write.key ≠ "" := by
  obtain ⟨exchange, -, wrote⟩ := List.mem_filterMap.mp present
  exact exchange.key_ne_empty wrote

/-- Where all writes of the name are to the pair, both select the same writes. -/
theorem Write.latest_of_unshared {writes : List Write} {widget key : String}
    (unshared : ∀ write ∈ writes, write.name = dataKey widget key →
      write.widget = widget ∧ write.key = key) (now : Instant) :
    latest writes (·.name = dataKey widget key) now =
      latest writes (fun write => write.widget = widget ∧ write.key = key) now := by
  have selected : writes.filter (·.name = dataKey widget key) =
      writes.filter fun write => write.widget = widget ∧ write.key = key := by
    refine List.filter_congr fun write present => ?_
    rw [decide_eq_decide]
    constructor
    · exact unshared write present
    · rintro ⟨rfl, rfl⟩
      rfl
  rw [latest, latest, selected]

/-- A request for data finds what the latest write of the same name has left, whatever pair that was
written to. It finds what the latest write to its own pair has left as long as there was none to
another pair of the name, which a pair without a slash inside never meets. A write is answered 201 or
204, and always answered while the metrics have room. -/
theorem answer_of_latest_write (config : Config) (startClock clock : Clock)
    (happenings : List Happening) (request : Request) (widget key : String)
    (ordered : Happening.Ordered (happenings ++ [.request request clock]))
    (asks : AsksFor request widget key)
    (admitted : (History.of config startClock happenings).app.admits request clock = true) :
    Answers ((History.of config startClock happenings).app.handle request clock).1 widget key
        (Write.latest ((History.of config startClock happenings).writes
          config.cache.settings.defaultTtl) (·.name = dataKey widget key) clock.reading) ∧
      (('/' ∈ widget.toList ∨ '/' ∈ key.toList.dropLast →
          ∀ write ∈ (History.of config startClock happenings).writes
            config.cache.settings.defaultTtl,
            write.name = dataKey widget key → write.widget = widget ∧ write.key = key) →
        Answers ((History.of config startClock happenings).app.handle request clock).1 widget key
          (Write.latest ((History.of config startClock happenings).writes
            config.cache.settings.defaultTtl)
            (fun write => write.widget = widget ∧ write.key = key) clock.reading)) ∧
      (config.metrics.windowSize ≤ Metrics.Collector.largestWindow →
        ∀ exchange ∈ (History.of config startClock happenings).exchanges,
          (exchange.write? config.cache.settings.defaultTtl).isSome = true →
            exchange.status = some 201 ∨ exchange.status = some 204) := by
  have readings : (happenings.filterMap Happening.reading? ++ [clock.reading]).Pairwise (· ≤ ·) := by
    simpa [Happening.Ordered, Happening.reading?] using ordered
  have sound := History.of_sound config startClock readings
  obtain ⟨widgetText, keyText, asked, widgetDecoded, keyDecoded⟩ := asks.names
  obtain ⟨response, responds, same⟩ :=
    App.handle_load asks.method asked widgetDecoded keyDecoded admitted
  rw [sound.values _ _ (Instant.le_refl _)] at same
  have byName : Answers ((History.of config startClock happenings).app.handle request clock).1
      widget key (Write.latest ((History.of config startClock happenings).writes
        config.cache.settings.defaultTtl) (·.name = dataKey widget key) clock.reading) :=
    ⟨response, responds, congrArg Prod.fst same, congrArg Prod.snd same⟩
  refine ⟨byName, fun unshared => ?_, fun room exchange present wrote => ?_⟩
  · rw [← Write.latest_of_unshared]
    · exact byName
    -- the pair has its name to itself, or no other pair of the name was written
    · intro write present name
      by_cases shares : SharesName widget key
      · exact unshared ((sharesName_iff widget key).mp shares) write present name
      · by_contra other
        exact shares ⟨write.widget, write.key, History.writes_key_ne_empty present, name, other⟩
  · have enough : max config.metrics.windowSize 1 ≤ Metrics.Collector.largestWindow := by
      simp only [Metrics.Collector.largestWindow] at *
      omega
    obtain ⟨status, answer⟩ :=
      Option.isSome_iff_exists.mp (sound.answered enough exchange present wrote)
    obtain ⟨exchanged, exchangedClock, answered⟩ := exchange
    obtain rfl : answered = some status := answer
    by_contra other
    simp only [Option.some.injEq, not_or] at other
    rw [Exchange.write?_of_status other.1 other.2] at wrote
    cases wrote

/-- A value stored for the widget `a/b` is found under the widget `a`, to which nothing was written. -/
theorem answer_of_latest_write_shared_name :
    ∃ (config : Config) (clock : Clock) (post get : Request),
      Happening.Ordered ([.request post clock] ++ [.request get clock]) ∧
      AsksFor get "a" "b/c" ∧
      (History.of config clock [.request post clock]).app.admits get clock = true ∧
      Answers ((History.of config clock [.request post clock]).app.handle get clock).1 "a" "b/c"
        (Write.latest ((History.of config clock [.request post clock]).writes
          config.cache.settings.defaultTtl) (·.name = dataKey "a" "b/c") clock.reading) ∧
      ((History.of config clock [.request post clock]).app.handle get clock).1.map Response.status =
        some 200 ∧
      ((History.of config clock [.request post clock]).writes config.cache.settings.defaultTtl).map
        (fun write => (write.widget, write.key)) = [("a/b", "c")] := by
  let config : Config := { Config.standard with rateLimit := ⟨false, 60.0, 3600⟩ }
  let post : Request := ⟨.post, "/api/v1/widgets/a%2Fb/data".toList,
    [⟨"content-type", "application/json".toList⟩],
    "\x7b\"key\":\"c\",\"value\":1\x7d".toUTF8.toList, none, false⟩
  let get : Request := ⟨.get, "/api/v1/widgets/a/data/b%2Fc".toList, [], [], none, false⟩
  have ordered : Happening.Ordered ([.request post ⟨⟨0⟩, ⟨0⟩⟩] ++ [.request get ⟨⟨0⟩, ⟨0⟩⟩]) := by
    decide +kernel
  have asks : AsksFor get "a" "b/c" :=
    ⟨rfl, "a".toList, "b%2Fc".toList, by decide +kernel, by decide +kernel, by decide +kernel⟩
  have admitted : (History.of config ⟨⟨0⟩, ⟨0⟩⟩ [.request post ⟨⟨0⟩, ⟨0⟩⟩]).app.admits get
      ⟨⟨0⟩, ⟨0⟩⟩ = true := by
    decide +kernel
  refine ⟨config, ⟨⟨0⟩, ⟨0⟩⟩, post, get, ordered, asks, admitted, ?_, ?_, ?_⟩
  · exact (answer_of_latest_write config ⟨⟨0⟩, ⟨0⟩⟩ ⟨⟨0⟩, ⟨0⟩⟩ _ get "a" "b/c" ordered asks admitted).1
  · decide +kernel
  · decide +kernel

end Dashboard.Web
