import Dashboard.Proofs.Config.Publication
import Dashboard.Proofs.Config.Range
import Dashboard.Proofs.Toml.Document

namespace Dashboard.Config

open Toml (IsBareName IsPlainSection IsReadBack Value)

/-- A number is read back by a kind that is wide enough for all up to some bound. -/
theorem asCount_count {kind : Schema.IntegerKind} {value bound : Nat} (natural : kind.least ≤ 0)
    (wide : (bound : Int) ≤ kind.greatest) (small : value ≤ bound) :
    asCount kind (count value) = .ok value := by
  have least : kind.least ≤ (value : Int) := by omega
  have greatest : (value : Int) ≤ kind.greatest := by omega
  simp [asCount, count, Schema.IntegerKind.check, least, greatest, Except.map]

theorem asCount_size {value : Nat} (held : IsHeld value) : asCount .size (count value) = .ok value :=
  asCount_count (by decide) (by decide) held

theorem asCount_unsigned64 {value : Nat} (held : IsHeld value) :
    asCount .unsigned64 (count value) = .ok value :=
  asCount_count (by decide) (by decide) held

theorem asCount_port {value : Nat} (small : value ≤ 0xffff) : asCount .port (count value) = .ok value :=
  asCount_count (by decide) (by decide) small

theorem ofEntries_hub {hub : Hub} (capacity : IsHeld hub.inboxCapacity)
    (buffer : IsHeld hub.subscriberBuffer) : hubSection.ofEntries hub.fields = .ok hub := by
  simp [Schema.Record.ofEntries, Schema.Record.fillEntry, hubSection, sectionOf, setting, Hub.fields,
    asCount_size capacity, asCount_size buffer, Except.map, bind, Except.bind, pure, Except.pure]

theorem ofEntries_rateLimit {limit : RateLimit} (interval : IsHeld limit.sweepIntervalSeconds) :
    rateLimitSection.ofEntries limit.fields = .ok limit := by
  simp [Schema.Record.ofEntries, Schema.Record.fillEntry, rateLimitSection, sectionOf, setting,
    RateLimit.fields, asBoolean, asFloat, asCount_unsigned64 interval, Except.map, bind, Except.bind,
    pure, Except.pure]

theorem ofEntries_cache {cache : Cache} (ttl : IsHeld cache.defaultTtlSeconds)
    (interval : IsHeld cache.sweepIntervalSeconds) :
    cacheSection.ofEntries cache.fields = .ok cache := by
  simp [Schema.Record.ofEntries, Schema.Record.fillEntry, cacheSection, sectionOf, setting,
    Cache.fields, asCount_unsigned64 ttl, asCount_unsigned64 interval, Except.map, bind, Except.bind,
    pure, Except.pure]

theorem ofEntries_metrics {metrics : Metrics} (window : IsHeld metrics.windowSize) :
    metricsSection.ofEntries metrics.fields = .ok metrics := by
  simp [Schema.Record.ofEntries, Schema.Record.fillEntry, metricsSection, sectionOf, setting,
    Metrics.fields, asCount_size window, Except.map, bind, Except.bind, pure, Except.pure]

theorem ofEntries_webserver {server : Webserver} (port : server.port ≤ 0xffff)
    (heartbeat : IsHeld server.heartbeatSeconds) (idle : IsHeld server.clientIdleTimeoutSeconds) :
    webserverSection.ofEntries server.fields = .ok server := by
  simp [Schema.Record.ofEntries, Schema.Record.fillEntry, webserverSection, sectionOf, setting,
    Webserver.fields, asText, asBoolean, asCount_port port, asCount_unsigned64 heartbeat,
    asCount_unsigned64 idle, Except.map, bind, Except.bind, pure, Except.pure]

/-- The sections of settings are read as those settings. -/
theorem ofEntries_sections {config : Config} (port : config.webserver.port ≤ 0xffff)
    (held : AreHeld config.counts) :
    document.ofEntries (config.sections.map fun entry => (entry.1, .table entry.2)) = .ok config := by
  obtain ⟨capacity, buffer, interval, ttl, sweep, window, -, heartbeat, idle⟩ := areHeld_counts.mp held
  rw [Schema.Record.ofEntries]
  simp [Schema.Record.fillEntry, document, sectionOf, setting, sections, asSection,
    ofEntries_hub capacity buffer, ofEntries_rateLimit interval, ofEntries_cache ttl sweep,
    ofEntries_metrics window, ofEntries_webserver port heartbeat idle, Except.map, bind, Except.bind,
    pure, Except.pure]

theorem isBareName_sections (config : Config) : ∀ entry ∈ config.sections, IsBareName entry.1 := by
  have bare : ∀ name ∈ config.sections.map Prod.fst, IsBareName name := by
    change ∀ name ∈ ["hub", "rate_limit", "cache", "metrics", "webserver"], IsBareName name
    decide
  exact fun entry member => bare entry.1 (List.mem_map_of_mem member)

/-- Names that need no quotes, each once, for values of which only one may be a float. -/
theorem isPlainSection {fields : List (String × Value)} (names : List String)
    (named : fields.map Prod.fst = names) (bare : ∀ name ∈ names, IsBareName name)
    (distinct : names.Nodup) (readBack : ∀ field ∈ fields, IsReadBack field.2) :
    IsPlainSection fields where
  bare field member := bare field.1 (named ▸ List.mem_map_of_mem member)
  readBack := readBack
  distinct := named ▸ distinct

theorem isPlainSection_sections {config : Config}
    (readsBack : IsReadBack (.float config.rateLimit.requestsPerMinute)) :
    ∀ entry ∈ config.sections, IsPlainSection entry.2 := by
  simp only [sections, List.forall_mem_cons]
  refine ⟨?_, ?_, ?_, ?_, ?_, nofun⟩
  · apply isPlainSection ["inbox_capacity", "subscriber_buffer"] rfl
    · decide
    · decide
    · simp [Hub.fields, count, IsReadBack]
  · apply isPlainSection ["enabled", "requests_per_minute", "sweep_interval_secs"] rfl
    · decide
    · decide
    · simpa [RateLimit.fields, count, IsReadBack] using readsBack
  · apply isPlainSection ["default_ttl_secs", "sweep_interval_secs"] rfl
    · decide
    · decide
    · simp [Cache.fields, count, IsReadBack]
  · apply isPlainSection ["window_size"] rfl
    · decide
    · decide
    · simp [Metrics.fields, count, IsReadBack]
  · apply isPlainSection ["host", "port", "cors_enabled", "heartbeat_secs",
      "client_idle_timeout_secs"] rfl
    · decide
    · decide
    · simp [Webserver.fields, count, IsReadBack]

theorem scalarText?_count {value : Nat} (held : IsHeld value) :
    (Toml.scalarText? (count value)).isSome = true := by
  have writable : Toml.isWritable (value : Int) = true := by
    simp only [IsHeld] at held
    simp only [Toml.isWritable, Bool.and_eq_true, decide_eq_true_eq]
    omega
  simp [count, Toml.scalarText?, writable]

theorem scalarText?_count_eq_none {value : Nat} (great : ¬ IsHeld value) :
    Toml.scalarText? (count value) = none := by
  have unwritable : Toml.isWritable (value : Int) = false := by
    simp only [IsHeld] at great
    simp only [Toml.isWritable, Bool.and_eq_false_iff, decide_eq_false_iff_not]
    omega
  simp [count, Toml.scalarText?, unwritable]

theorem written?_isSome {config : Config} (held : AreHeld config.counts) :
    config.written?.isSome = true := by
  apply Toml.sections?_isSome
  obtain ⟨capacity, buffer, interval, ttl, sweep, window, port, heartbeat, idle⟩ :=
    areHeld_counts.mp held
  simp only [sections, Hub.fields, RateLimit.fields, Cache.fields, Metrics.fields, Webserver.fields,
    List.forall_mem_cons]
  refine ⟨?_, ?_, ?_, ?_, ?_, nofun⟩
  · exact ⟨scalarText?_count capacity, scalarText?_count buffer, nofun⟩
  · exact ⟨rfl, rfl, scalarText?_count interval, nofun⟩
  · exact ⟨scalarText?_count ttl, scalarText?_count sweep, nofun⟩
  · exact ⟨scalarText?_count window, nofun⟩
  · exact ⟨rfl, scalarText?_count port, rfl, scalarText?_count heartbeat, scalarText?_count idle, nofun⟩

/-- Every whole number of the settings is a field. -/
theorem exists_field {config : Config} {number : Nat} (member : number ∈ config.counts) :
    ∃ entry ∈ config.sections, ∃ name, (name, count number) ∈ entry.2 := by
  simp only [counts, Hub.counts, RateLimit.counts, Cache.counts, Metrics.counts, Webserver.counts,
    List.cons_append, List.nil_append, List.mem_cons, List.not_mem_nil, or_false] at member
  rcases member with rfl | rfl | rfl | rfl | rfl | rfl | rfl | rfl | rfl <;>
    simp [sections, Hub.fields, RateLimit.fields, Cache.fields, Metrics.fields, Webserver.fields,
      exists_or]

theorem written?_eq_none {config : Config} {number : Nat} (member : number ∈ config.counts)
    (great : ¬ IsHeld number) : config.written? = none := by
  obtain ⟨entry, inside, name, field⟩ := exists_field member
  exact Toml.sections?_eq_none inside field (scalarText?_count_eq_none great)

/-- Settings that can be written are read back from their text. -/
theorem parse_written? {config : Config} {text : List Char} (port : config.webserver.port ≤ 0xffff)
    (readsBack : IsReadBack (.float config.rateLimit.requestsPerMinute))
    (held : AreHeld config.counts) (written : config.written? = some text) :
    parse (String.ofList text) = .ok config := by
  have distinct : (config.sections.map Prod.fst).Nodup := by
    change ["hub", "rate_limit", "cache", "metrics", "webserver"].Nodup
    decide
  have read := Toml.parse_sections config.isBareName_sections distinct
    (isPlainSection_sections readsBack) written
  rw [parse, read]
  simp only [ofEntries_sections port held]
  rfl

/-- Saved settings are what is read from the file, unless a whole number of theirs is too great for the
format; then nothing is written. Settings that were read never have such a number. A port is a number of
sixteen bits, and the digits of the rate are read back as the rate. -/
theorem save_round_trip (setup : Setup) (path : String)
    (port : setup.store.current.webserver.port ≤ 0xffff)
    (readsBack : Decimal.float? (Decimal.Style.setting.text
      setup.store.current.rateLimit.requestsPerMinute) =
        some setup.store.current.rateLimit.requestsPerMinute) :
    (AreHeld setup.store.current.counts →
      ∃ text, setup.store.current.written? = some text ∧
        parse (String.ofList text) = .ok setup.store.current ∧
        match setup.files.write path (Text.Utf8.encode (String.ofList text)) with
        | .ok files => setup.perform (.save path) = (.ok none, { setup with files := files }) ∧
            readPresent files path = .ok setup.store.current
        | .error trouble => setup.perform (.save path) = (.error (.write path trouble), setup)) ∧
      (¬ AreHeld setup.store.current.counts →
        setup.perform (.save path) = (.error .tooGreat, setup)) ∧
      ∀ source config, parse source = .ok config → AreHeld config.counts := by
  refine ⟨?_, ?_, fun source config read => counts_held read⟩
  · intro held
    obtain ⟨text, written⟩ := Option.isSome_iff_exists.mp (written?_isSome held)
    have parsed := parse_written? port readsBack held written
    refine ⟨text, written, parsed, ?_⟩
    split
    · rename_i files stored
      have decoded : Text.Utf8.decode? (Text.Utf8.encode (String.ofList text)) = some text := by
        rw [Text.Utf8.decode?_encode, String.toList_ofList]
      refine ⟨by simp [Setup.perform, Store.save, written, stored, Except.mapError], ?_⟩
      rw [readPresent, Files.read_write stored decoded]
      simp [parseFrom, parsed, Except.mapError]
    · rename_i trouble refused
      simp [Setup.perform, Store.save, written, refused, Except.mapError]
  · intro great
    obtain ⟨number, member, tooGreat⟩ : ∃ number ∈ setup.store.current.counts, ¬ IsHeld number := by
      by_contra noneTooGreat
      exact great fun number member => by_contra fun tooGreat => noneTooGreat ⟨number, member, tooGreat⟩
    simp [Setup.perform, Store.save, written?_eq_none member tooGreat]

/-- A host with quotes of both kinds, a line break, a backslash and a control character is kept, and so is
a rate without an exact decimal; a window beyond 63 bits is not written. -/
theorem save_round_trip_of_quotes :
    ∃ config : Config, config.webserver.host = "a'\"\"\"\n\\é\x01" ∧
      config.rateLimit.requestsPerMinute = 0.1 ∧
      (∃ after, Setup.perform ⟨⟨some config⟩, .empty⟩ (.save "c.toml") =
          (.ok none, ⟨⟨some config⟩, after⟩) ∧ readPresent after "c.toml" = .ok config) ∧
      Setup.perform ⟨⟨some { config with metrics := ⟨0x8000000000000000⟩ }⟩, .empty⟩ (.save "c.toml") =
        (.error .tooGreat, ⟨⟨some { config with metrics := ⟨0x8000000000000000⟩ }⟩, .empty⟩) := by
  let config : Config := { Config.standard with
    webserver := { Webserver.standard with host := "a'\"\"\"\n\\é\x01" }
    rateLimit := { RateLimit.standard with requestsPerMinute := 0.1 } }
  have port : config.webserver.port ≤ 0xffff := by decide
  have readsBack : Decimal.float? (Decimal.Style.setting.text config.rateLimit.requestsPerMinute) =
      some config.rateLimit.requestsPerMinute := by
    decide +kernel
  have held : AreHeld config.counts := by decide
  have great : ¬ AreHeld (counts { config with metrics := ⟨0x8000000000000000⟩ }) := by decide
  have stored (bytes : List UInt8) : Files.empty.write "c.toml" bytes =
      .ok (Files.empty.placing (Files.empty.home ++ ["c.toml"]) (.file bytes)) := by
    rfl
  refine ⟨config, rfl, rfl, ?_, ?_⟩
  · obtain ⟨saved, -⟩ := save_round_trip ⟨⟨some config⟩, .empty⟩ "c.toml" port readsBack
    obtain ⟨text, -, -, outcome⟩ := saved held
    rw [stored] at outcome
    exact ⟨_, outcome⟩
  · obtain ⟨-, refused, -⟩ := save_round_trip
      ⟨⟨some { config with metrics := ⟨0x8000000000000000⟩ }⟩, .empty⟩ "c.toml" port readsBack
    exact refused great

end Dashboard.Config
