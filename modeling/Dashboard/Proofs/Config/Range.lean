import Dashboard.Config.Reading
import Dashboard.Proofs.Toml.Range

namespace Dashboard.Config

open Toml (Value)

def Hub.counts (hub : Hub) : List Nat := [hub.inboxCapacity, hub.subscriberBuffer]
def RateLimit.counts (limit : RateLimit) : List Nat := [limit.sweepIntervalSeconds]
def Cache.counts (cache : Cache) : List Nat := [cache.defaultTtlSeconds, cache.sweepIntervalSeconds]
def Metrics.counts (metrics : Metrics) : List Nat := [metrics.windowSize]
def Webserver.counts (server : Webserver) : List Nat :=
  [server.port, server.heartbeatSeconds, server.clientIdleTimeoutSeconds]

/-- The whole numbers of the settings, section by section. -/
def counts (config : Config) : List Nat :=
  config.hub.counts ++ (config.rateLimit.counts ++ (config.cache.counts ++ (config.metrics.counts ++
    config.webserver.counts)))

/-- Whether 64 bits hold a number with its sign. -/
def IsHeld (count : Nat) : Prop := count ≤ 0x7fffffffffffffff

instance (count : Nat) : Decidable (IsHeld count) := inferInstanceAs (Decidable (_ ≤ _))

/-- Whether 64 bits hold all of some numbers. -/
abbrev AreHeld (counts : List Nat) : Prop := ∀ count ∈ counts, IsHeld count

theorem areHeld_counts {config : Config} : AreHeld config.counts ↔
    IsHeld config.hub.inboxCapacity ∧ IsHeld config.hub.subscriberBuffer ∧
      IsHeld config.rateLimit.sweepIntervalSeconds ∧ IsHeld config.cache.defaultTtlSeconds ∧
      IsHeld config.cache.sweepIntervalSeconds ∧ IsHeld config.metrics.windowSize ∧
      IsHeld config.webserver.port ∧ IsHeld config.webserver.heartbeatSeconds ∧
      IsHeld config.webserver.clientIdleTimeoutSeconds := by
  simp [AreHeld, counts, Hub.counts, RateLimit.counts, Cache.counts, Metrics.counts,
    Webserver.counts]

/-- Whether a field that is filled with values that can be written keeps a property of what is
gathered. -/
def Keeps {σ : Type} (holds : σ → Prop) (field : Schema.Field Value σ) : Prop :=
  ∀ gathered value after, value.isHeld = true → holds gathered →
    field.fill gathered value = .ok after → holds after

section

variable {σ α : Type} {holds : σ → Prop}

theorem keeps_setting (name : String) {decode : Value → Except Schema.Misfit α} {replace : σ → α → σ}
    (keeps : ∀ gathered value part, value.isHeld = true → decode value = .ok part → holds gathered →
      holds (replace gathered part)) : Keeps holds (setting name decode replace) := by
  intro gathered value after valueHeld before filled
  cases decoded : decode value with
  | error reason =>
    simp only [setting, decoded, Except.map] at filled
    cases filled
  | ok part =>
    simp only [setting, decoded, Except.map] at filled
    obtain rfl := Except.ok.inj filled
    exact keeps gathered value part valueHeld decoded before

theorem asCount_held {kind : Schema.IntegerKind} {value : Value} {count : Nat}
    (valueHeld : value.isHeld = true) (decoded : asCount kind value = .ok count) : IsHeld count := by
  cases value with
  | integer number =>
    simp only [Value.isHeld, Toml.isWritable, Bool.and_eq_true, decide_eq_true_eq] at valueHeld
    simp only [asCount, Schema.IntegerKind.check] at decoded
    split at decoded
    · obtain rfl := Except.ok.inj decoded
      simp only [IsHeld]
      omega
    · cases decoded
  | boolean _ | float _ | string _ | datetime | array _ | table _ => cases decoded

theorem keeps_count (name : String) {kind : Schema.IntegerKind} {replace : σ → Nat → σ}
    (keeps : ∀ gathered count, IsHeld count → holds gathered → holds (replace gathered count)) :
    Keeps holds (setting name (asCount kind) replace) :=
  keeps_setting name fun gathered _ count valueHeld decoded =>
    keeps gathered count (asCount_held valueHeld decoded)

theorem fillEntry_keeps {record : Schema.Record Value σ σ} {gathered after : σ}
    {entry : String × Value} (keep : ∀ field ∈ record.fields, Keeps holds field)
    (before : holds gathered) (entryHeld : entry.2.isHeld = true)
    (filled : record.fillEntry gathered entry = .ok after) : holds after := by
  rw [Schema.Record.fillEntry] at filled
  split at filled
  · rename_i field found
    exact keep field (List.mem_of_find?_eq_some found) _ _ _ entryHeld before filled
  · obtain rfl := Except.ok.inj filled
    exact before

theorem foldlM_fillEntry_keeps (record : Schema.Record Value σ σ) {gathered after : σ}
    {entries : List (String × Value)} (keep : ∀ field ∈ record.fields, Keeps holds field)
    (before : holds gathered) (held : ∀ entry ∈ entries, entry.2.isHeld = true)
    (filled : entries.foldlM record.fillEntry gathered = .ok after) : holds after := by
  induction entries generalizing gathered with
  | nil =>
    obtain rfl := Except.ok.inj filled
    exact before
  | cons entry entries inductionHypothesis =>
    rw [List.foldlM_cons] at filled
    cases first : record.fillEntry gathered entry with
    | error reason =>
      rw [first] at filled
      cases filled
    | ok next =>
      rw [first] at filled
      exact inductionHypothesis (fillEntry_keeps keep before (held entry List.mem_cons_self) first)
        (fun other member => held other (List.mem_cons_of_mem _ member)) filled

theorem fillItems_keeps (record : Schema.Record Value σ σ) {place : Nat} {gathered after : σ}
    {fields : List (Schema.Field Value σ)} {items : List Value}
    (keep : ∀ field ∈ fields, Keeps holds field) (before : holds gathered)
    (held : ∀ item ∈ items, item.isHeld = true)
    (filled : record.fillItems place gathered fields items = .ok after) : holds after := by
  induction fields generalizing place gathered items with
  | nil =>
    obtain rfl : gathered = after := by simpa [Schema.Record.fillItems] using filled
    exact before
  | cons field fields inductionHypothesis =>
    have others : ∀ other ∈ fields, Keeps holds other := fun other member =>
      keep other (List.mem_cons_of_mem _ member)
    cases items with
    | nil =>
      rw [Schema.Record.fillItems] at filled
      split at filled
      · exact inductionHypothesis others before held filled
      · cases filled
    | cons item items =>
      rw [Schema.Record.fillItems] at filled
      split at filled
      · rename_i next first
        exact inductionHypothesis others
          (keep field List.mem_cons_self _ _ _ (held item List.mem_cons_self) before first)
          (fun other member => held other (List.mem_cons_of_mem _ member)) filled
      · cases filled

variable {name : String} {standard result : σ} {fields : List (Schema.Field Value σ)}

/-- What every field keeps, and the standard values have, a section has. -/
theorem ofEntries_keeps (holds : σ → Prop) {entries : List (String × Value)}
    (keep : ∀ field ∈ fields, Keeps holds field) (start : holds standard)
    (held : ∀ entry ∈ entries, entry.2.isHeld = true)
    (read : (sectionOf name standard fields).ofEntries entries = .ok result) : holds result := by
  rw [Schema.Record.ofEntries] at read
  split at read
  · rename_i gathered filled
    obtain rfl := Except.ok.inj read
    exact foldlM_fillEntry_keeps (sectionOf name standard fields) keep start held filled
  · cases read

theorem asSection_keeps (holds : σ → Prop) {value : Value}
    (keep : ∀ field ∈ fields, Keeps holds field) (start : holds standard) (held : value.isHeld = true)
    (read : asSection (sectionOf name standard fields) value = .ok result) : holds result := by
  cases value with
  | table entries =>
    rw [Value.isHeld, Toml.entriesHeld_iff] at held
    exact ofEntries_keeps holds keep start held read
  | array items =>
    rw [Value.isHeld, Toml.areHeld_iff] at held
    rw [asSection, Schema.Record.ofItems] at read
    split at read
    · rename_i gathered filled
      obtain rfl := Except.ok.inj read
      exact fillItems_keeps (sectionOf name standard fields) keep start held filled
    · cases read
  | datetime =>
    obtain rfl := Except.ok.inj read
    exact start
  | boolean _ | integer _ | float _ | string _ => cases read

end

theorem asSection_hub_held {value : Value} {hub : Hub} (held : value.isHeld = true)
    (read : asSection hubSection value = .ok hub) : AreHeld hub.counts := by
  refine asSection_keeps (fun hub => AreHeld hub.counts) ?_ (by decide) held read
  simp only [List.forall_mem_cons, AreHeld, Hub.counts]
  refine ⟨keeps_count _ ?_, keeps_count _ ?_, nofun⟩
  · exact fun hub count countHeld before => ⟨countHeld, before.2⟩
  · exact fun hub count countHeld before => ⟨before.1, countHeld, nofun⟩

theorem asSection_rateLimit_held {value : Value} {limit : RateLimit} (held : value.isHeld = true)
    (read : asSection rateLimitSection value = .ok limit) : AreHeld limit.counts := by
  refine asSection_keeps (fun limit => AreHeld limit.counts) ?_ (by decide) held read
  simp only [List.forall_mem_cons, AreHeld, RateLimit.counts]
  refine ⟨keeps_setting _ ?_, keeps_setting _ ?_, keeps_count _ ?_, nofun⟩
  · exact fun limit _ enabled _ _ before => before
  · exact fun limit _ requests _ _ before => before
  · exact fun limit count countHeld before => ⟨countHeld, nofun⟩

theorem asSection_cache_held {value : Value} {cache : Cache} (held : value.isHeld = true)
    (read : asSection cacheSection value = .ok cache) : AreHeld cache.counts := by
  refine asSection_keeps (fun cache => AreHeld cache.counts) ?_ (by decide) held read
  simp only [List.forall_mem_cons, AreHeld, Cache.counts]
  refine ⟨keeps_count _ ?_, keeps_count _ ?_, nofun⟩
  · exact fun cache count countHeld before => ⟨countHeld, before.2⟩
  · exact fun cache count countHeld before => ⟨before.1, countHeld, nofun⟩

theorem asSection_metrics_held {value : Value} {metrics : Metrics} (held : value.isHeld = true)
    (read : asSection metricsSection value = .ok metrics) : AreHeld metrics.counts := by
  refine asSection_keeps (fun metrics => AreHeld metrics.counts) ?_ (by decide) held read
  simp only [List.forall_mem_cons, AreHeld, Metrics.counts]
  refine ⟨keeps_count _ ?_, nofun⟩
  exact fun metrics count countHeld before => ⟨countHeld, nofun⟩

theorem asSection_webserver_held {value : Value} {server : Webserver} (held : value.isHeld = true)
    (read : asSection webserverSection value = .ok server) : AreHeld server.counts := by
  refine asSection_keeps (fun server => AreHeld server.counts) ?_ (by decide) held read
  simp only [List.forall_mem_cons, AreHeld, Webserver.counts]
  refine ⟨keeps_setting _ ?_, keeps_count _ ?_, keeps_setting _ ?_, keeps_count _ ?_,
    keeps_count _ ?_, nofun⟩
  · exact fun server _ host _ _ before => before
  · exact fun server count countHeld before => ⟨countHeld, before.2⟩
  · exact fun server _ enabled _ _ before => before
  · exact fun server count countHeld before => ⟨before.1, countHeld, before.2.2⟩
  · exact fun server count countHeld before => ⟨before.1, before.2.1, countHeld, nofun⟩

/-- The whole numbers of settings that were read can be written. -/
theorem counts_held {source : String} {config : Config} (read : parse source = .ok config) :
    AreHeld config.counts := by
  rw [parse] at read
  split at read
  · cases read
  · rename_i entries parsed
    cases recorded : document.ofEntries entries with
    | error reason =>
      rw [recorded] at read
      cases read
    | ok result =>
      rw [recorded] at read
      obtain rfl := Except.ok.inj read
      refine ofEntries_keeps (fun config => AreHeld config.counts) ?_ (by decide)
        (Toml.parse_held parsed) recorded
      simp only [List.forall_mem_cons, AreHeld, counts, List.forall_mem_append]
      refine ⟨keeps_setting _ ?_, keeps_setting _ ?_, keeps_setting _ ?_, keeps_setting _ ?_,
        keeps_setting _ ?_, nofun⟩
      · exact fun config value hub held hubRead before =>
          ⟨asSection_hub_held held hubRead, before.2⟩
      · exact fun config value limit held limitRead before =>
          ⟨before.1, asSection_rateLimit_held held limitRead, before.2.2⟩
      · exact fun config value cache held cacheRead before =>
          ⟨before.1, before.2.1, asSection_cache_held held cacheRead, before.2.2.2⟩
      · exact fun config value metrics held metricsRead before =>
          ⟨before.1, before.2.1, before.2.2.1, asSection_metrics_held held metricsRead,
            before.2.2.2.2⟩
      · exact fun config value server held serverRead before =>
          ⟨before.1, before.2.1, before.2.2.1, before.2.2.2.1,
            asSection_webserver_held held serverRead⟩

end Dashboard.Config
