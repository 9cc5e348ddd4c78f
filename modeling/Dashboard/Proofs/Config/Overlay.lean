import Dashboard.Proofs.Config.Choice
import Dashboard.Proofs.Schema.Record
import Mathlib.Data.List.Forall2
import Mathlib.Logic.Function.Basic

namespace Dashboard.Config

open Schema (Field Misfit Record)
open Toml (Value)

/-- What a field is for: the settings that it decides, and the choices that its value stands for. -/
structure Role where
  name : String
  decides : Setting → Bool
  means : Value → Choice → Prop
  congr : ∀ {value before after}, (∀ setting, decides setting = true → before setting = after setting) →
    means value before → means value after

namespace Role

/-- Whether a choice is the one of what is found for a field. -/
def Met (role : Role) (find : String → Option Value) (chosen : Choice) : Prop :=
  match find role.name with
  | none => ∀ setting, role.decides setting = true → chosen setting = none
  | some value => role.means value chosen

/-- Two roles that decide no setting both. -/
def Apart (first second : Role) : Prop :=
  ∀ setting, first.decides setting = true → ¬ second.decides setting = true

variable {σ : Type}

/-- Whether a field has a role in a record of which every choice makes a part: it can be left out, and a
value for it replaces the choice of what it decides. -/
structure Played (part : Choice → σ) (role : Role) (field : Field Value σ) : Prop where
  named : field.name = role.name
  optional : field.isOptional = true
  fills : ∀ (chosen : Choice) (value : Value) (next : σ), value.WellFormed →
    (field.fill (part chosen) value = .ok next ↔
      ∃ later, role.means value later ∧
        (∀ setting, ¬ role.decides setting = true → later setting = chosen setting) ∧
        part later = next)

variable {part : Choice → σ} {roles : List Role} {fields : List (Field Value σ)}
  {find : String → Option Value}

theorem Met.congr {role : Role} {before after : Choice}
    (same : ∀ setting, role.decides setting = true → before setting = after setting)
    (met : role.Met find before) : role.Met find after := by
  rw [Met] at met ⊢
  cases found : find role.name with
  | none =>
    rw [found] at met
    exact fun setting decided => (same setting decided).symm.trans (met setting decided)
  | some value =>
    rw [found] at met
    exact role.congr same met

/-- A field chooses what is found for it, where nothing was chosen before. -/
theorem Played.supply_eq_some_iff {role : Role} {field : Field Value σ}
    (played : Played part role field)
    (wellFormed : ∀ name value, find name = some value → value.WellFormed) {chosen : Choice}
    (fresh : ∀ setting, role.decides setting = true → chosen setting = none) (next : σ) :
    field.supply find (part chosen) = some next ↔
      ∃ later, role.Met find later ∧
        (∀ setting, ¬ role.decides setting = true → later setting = chosen setting) ∧
        part later = next := by
  simp only [Field.supply, played.named, Met]
  cases found : find role.name with
  | none =>
    simp only [Option.some_inj]
    constructor
    · exact fun same => ⟨chosen, fresh, fun _ _ => rfl, same⟩
    · rintro ⟨later, absent, kept, same⟩
      have unchanged : later = chosen := by
        funext setting
        by_cases decided : role.decides setting = true
        · rw [absent setting decided, fresh setting decided]
        · exact kept setting decided
      exact unchanged ▸ same
  | some value =>
    simp only [Schema.toOption_eq_some_iff, played.fills chosen value _ (wellFormed _ _ found)]

/-- Fields that decide different settings choose what is found for each of them, one after another. -/
theorem supplyAll_eq_some_iff (played : List.Forall₂ (Played part) roles fields)
    (apart : roles.Pairwise Apart)
    (wellFormed : ∀ name value, find name = some value → value.WellFormed) {chosen : Choice}
    (fresh : ∀ role ∈ roles, ∀ setting, role.decides setting = true → chosen setting = none)
    (last : σ) :
    Field.supplyAll find (part chosen) fields = some last ↔
      ∃ later, (∀ role ∈ roles, role.Met find later) ∧
        (∀ setting, (∀ role ∈ roles, ¬ role.decides setting = true) →
          later setting = chosen setting) ∧ part later = last := by
  induction played generalizing chosen with
  | nil =>
    rw [Field.supplyAll_nil, Option.some_inj]
    constructor
    · exact fun same => ⟨chosen, nofun, fun _ _ => rfl, same⟩
    · rintro ⟨later, -, kept, same⟩
      obtain rfl : later = chosen := funext fun setting => kept setting nofun
      exact same
  | @cons role field roles fields first others inductionHypothesis =>
    obtain ⟨apartFirst, apartOthers⟩ := List.pairwise_cons.mp apart
    obtain ⟨freshFirst, freshOthers⟩ := List.forall_mem_cons.mp fresh
    have undecided {setting : Setting} (decided : role.decides setting = true) :
        ∀ other ∈ roles, ¬ other.decides setting = true := fun other member =>
      apartFirst other member setting decided
    -- What the first field leaves alone is as fresh as before for the others.
    have freshLater {middle : Choice}
        (kept : ∀ setting, ¬ role.decides setting = true → middle setting = chosen setting) :
        ∀ other ∈ roles, ∀ setting, other.decides setting = true → middle setting = none := by
      intro other member setting decided
      rw [kept setting fun own => undecided own other member decided]
      exact freshOthers other member setting decided
    simp only [Field.supplyAll_cons, Option.bind_eq_some_iff,
      first.supply_eq_some_iff wellFormed freshFirst]
    constructor
    · rintro ⟨-, ⟨middle, own, keptFirst, rfl⟩, supplied⟩
      obtain ⟨later, met, kept, same⟩ :=
        (inductionHypothesis apartOthers (freshLater keptFirst)).mp supplied
      have ownLater := own.congr fun setting decided => (kept setting (undecided decided)).symm
      refine ⟨later, List.forall_mem_cons.mpr ⟨ownLater, met⟩, ?_, same⟩
      intro setting free
      obtain ⟨freeFirst, freeOthers⟩ := List.forall_mem_cons.mp free
      exact (kept setting freeOthers).trans (keptFirst setting freeFirst)
    · rintro ⟨later, met, kept, same⟩
      obtain ⟨own, met⟩ := List.forall_mem_cons.mp met
      let middle := Choice.splice role.decides later chosen
      have ownMiddle : role.Met find middle :=
        own.congr fun _ decided => (Choice.splice_of_decided decided later chosen).symm
      have keptFirst : ∀ setting, ¬ role.decides setting = true → middle setting = chosen setting :=
        fun _ free => Choice.splice_of_free free later chosen
      refine ⟨part middle, ⟨middle, ownMiddle, keptFirst, rfl⟩,
        (inductionHypothesis apartOthers (freshLater keptFirst)).mpr ⟨later, met, ?_, same⟩⟩
      intro setting free
      by_cases decided : role.decides setting = true
      · exact (Choice.splice_of_decided decided later chosen).symm
      · rw [keptFirst setting decided]
        exact kept setting (List.forall_mem_cons.mpr ⟨decided, free⟩)

/-- Whether the fields of a record have these roles, over the part of choosing nothing. -/
structure Realized (part : Choice → σ) (roles : List Role) (record : Record Value σ σ) : Prop where
  played : List.Forall₂ (Played part) roles record.fields
  apart : roles.Pairwise Apart
  empty : record.empty = part .nothing
  make : record.make = .ok
  lawful : record.Lawful

variable {record : Record Value σ σ}

theorem Realized.build_eq_some_iff (realized : Realized part roles record)
    (wellFormed : ∀ name value, find name = some value → value.WellFormed) (made : σ) :
    record.build find = some made ↔
      ∃ chosen, (∀ role ∈ roles, role.Met find chosen) ∧
        (∀ setting, (∀ role ∈ roles, ¬ role.decides setting = true) → chosen setting = none) ∧
        part chosen = made := by
  have fresh : ∀ role ∈ roles, ∀ setting, role.decides setting = true →
      Choice.nothing setting = none := fun _ _ _ _ => rfl
  have supplied := supplyAll_eq_some_iff realized.played realized.apart wellFormed fresh made
  simp only [Record.build_eq_some_iff, realized.empty, realized.make, Except.ok.injEq, exists_eq_right,
    supplied]
  rfl

theorem names_of_played (played : List.Forall₂ (Played part) roles fields) :
    fields.map (·.name) = roles.map Role.name := by
  induction played with
  | nil => rfl
  | cons first _ inductionHypothesis =>
    rw [List.map_cons, List.map_cons, first.named, inductionHypothesis]

theorem optional_of_played (played : List.Forall₂ (Played part) roles fields) :
    ∀ field ∈ fields, field.isOptional = true := by
  induction played with
  | nil => exact List.forall_mem_nil _
  | cons first _ inductionHypothesis =>
    exact List.forall_mem_cons.mpr ⟨first.optional, inductionHypothesis⟩

theorem realized_sectionOf (name : String) (played : List.Forall₂ (Played part) roles fields)
    (apart : roles.Pairwise Apart) (distinct : (roles.map Role.name).Nodup)
    (commutes : fields.Pairwise Field.Commutes) :
    Realized part roles (sectionOf name (part .nothing) fields) where
  played := played
  apart := apart
  empty := rfl
  make := rfl
  lawful := {
    distinct := by
      rw [Record.names, sectionOf, names_of_played played]
      exact distinct
    commutes := commutes
    needed _ _ _ field member mandatory :=
      absurd (optional_of_played played field member) (by simp [mandatory]) }

/-- Roles are apart if each of them decides the settings of its own. -/
theorem pairwise_apart {Owner : Type} {owners : List Owner} (distinct : owners.Nodup)
    {role : Owner → Role} (owner : Setting → Owner)
    (owned : ∀ own setting, (role own).decides setting = true → owner setting = own) :
    (owners.map role).Pairwise Apart := by
  refine List.pairwise_map.mpr (distinct.imp ?_)
  intro first second different setting decided other
  exact different ((owned first setting decided).symm.trans (owned second setting other))

/-- The role of the field of a setting. -/
def ofSetting (setting : Setting) : Role where
  name := setting.name
  decides other := other = setting
  means value chosen := ∃ content, chosen setting = some content ∧ setting.kind.Spells value content
  congr := by
    rintro value before after same ⟨content, chosen, spells⟩
    exact ⟨content, (same setting (decide_eq_true rfl)).symm.trans chosen, spells⟩

theorem met_ofSetting {setting : Setting} {chosen : Choice} :
    (ofSetting setting).Met find chosen ↔
      Option.Rel setting.kind.Spells (find setting.name) (chosen setting) := by
  simp only [Met, ofSetting, decide_eq_true_eq, forall_eq]
  cases find setting.name with
  | none => exact rel_none_iff.symm
  | some value => exact rel_some_iff.symm

/-- A field that decodes what says the content of a setting, and puts the content in its place. -/
theorem played_setting (setting : Setting) {decode : Value → Except Misfit setting.kind.Content}
    {replace : σ → setting.kind.Content → σ}
    (decodes : ∀ value content, decode value = .ok content ↔ setting.kind.Spells value content)
    (replaces : ∀ before content,
      replace (part before) content = part (Function.update before setting (some content))) :
    Played part (ofSetting setting) (Config.setting setting.name decode replace) where
  named := rfl
  optional := rfl
  fills chosen value next _ := by
    rw [Config.setting, ← Field.replacing, Field.fill_replacing]
    simp only [decodes, replaces, ofSetting, decide_eq_true_eq]
    constructor
    · rintro ⟨content, spells, same⟩
      exact ⟨Function.update chosen setting (some content), ⟨content, Function.update_self .., spells⟩,
        fun other free => Function.update_of_ne free .., same⟩
    · rintro ⟨later, ⟨content, own, spells⟩, kept, same⟩
      have updated : later = Function.update chosen setting (some content) :=
        Function.eq_update_iff.mpr ⟨own, kept⟩
      exact ⟨content, spells, updated ▸ same⟩

theorem apart_settings (home : Section) : (home.settings.map ofSetting).Pairwise Apart :=
  pairwise_apart (home.distinct_names.of_map Setting.name) id fun _ _ => of_decide_eq_true

end Role

open Role

theorem realized_hub : Realized Choice.hub (Section.hub.settings.map ofSetting) hubSection := by
  refine realized_sectionOf _ ?_ (apart_settings .hub) (by decide) ?_
  · exact .cons (played_setting .inboxCapacity (asCount_eq_ok_iff rfl rfl) fun _ _ => rfl)
      (.cons (played_setting .subscriberBuffer (asCount_eq_ok_iff rfl rfl) fun _ _ => rfl) .nil)
  · simp only [List.pairwise_cons, List.forall_mem_cons, List.not_mem_nil, false_implies, implies_true,
      List.Pairwise.nil, and_true]
    exact Field.commutes_replacing fun _ _ _ => rfl

theorem realized_rateLimit :
    Realized Choice.rateLimit (Section.rateLimit.settings.map ofSetting) rateLimitSection := by
  refine realized_sectionOf _ ?_ (apart_settings .rateLimit) (by decide) ?_
  · exact .cons (played_setting .limitEnabled asBoolean_eq_ok_iff fun _ _ => rfl)
      (.cons (played_setting .requestsPerMinute asFloat_eq_ok_iff fun _ _ => rfl)
        (.cons (played_setting .limitSweepInterval (asCount_eq_ok_iff rfl rfl) fun _ _ => rfl) .nil))
  · simp only [List.pairwise_cons, List.forall_mem_cons, List.not_mem_nil, false_implies, implies_true,
      List.Pairwise.nil, and_true]
    and_intros
    all_goals exact Field.commutes_replacing fun _ _ _ => rfl

theorem realized_cache :
    Realized Choice.cache (Section.cache.settings.map ofSetting) cacheSection := by
  refine realized_sectionOf _ ?_ (apart_settings .cache) (by decide) ?_
  · exact .cons (played_setting .defaultTtl (asCount_eq_ok_iff rfl rfl) fun _ _ => rfl)
      (.cons (played_setting .cacheSweepInterval (asCount_eq_ok_iff rfl rfl) fun _ _ => rfl) .nil)
  · simp only [List.pairwise_cons, List.forall_mem_cons, List.not_mem_nil, false_implies, implies_true,
      List.Pairwise.nil, and_true]
    exact Field.commutes_replacing fun _ _ _ => rfl

theorem realized_metrics :
    Realized Choice.metrics (Section.metrics.settings.map ofSetting) metricsSection := by
  refine realized_sectionOf _ ?_ (apart_settings .metrics) (by decide) (List.pairwise_singleton ..)
  exact .cons (played_setting .windowSize (asCount_eq_ok_iff rfl rfl) fun _ _ => rfl) .nil

theorem realized_webserver :
    Realized Choice.webserver (Section.webserver.settings.map ofSetting) webserverSection := by
  refine realized_sectionOf _ ?_ (apart_settings .webserver) (by decide) ?_
  · exact .cons (played_setting .host asText_eq_ok_iff fun _ _ => rfl)
      (.cons (played_setting .port (asCount_eq_ok_iff rfl rfl) fun _ _ => rfl)
        (.cons (played_setting .corsEnabled asBoolean_eq_ok_iff fun _ _ => rfl)
          (.cons (played_setting .heartbeat (asCount_eq_ok_iff rfl rfl) fun _ _ => rfl)
            (.cons (played_setting .clientIdleTimeout (asCount_eq_ok_iff rfl rfl) fun _ _ => rfl)
              .nil))))
  · simp only [List.pairwise_cons, List.forall_mem_cons, List.not_mem_nil, false_implies, implies_true,
      List.Pairwise.nil, and_true]
    and_intros
    all_goals exact Field.commutes_replacing fun _ _ _ => rfl

namespace Role

variable {σ : Type} {part : Choice → σ} {record : Record Value σ σ}

/-- The role of a section in the document. -/
def ofSection (home : Section) : Role where
  name := home.name
  decides setting := setting.home = home
  means value chosen := ∃ inner, home.entries value = some inner ∧
    ∀ setting, setting.home = home →
      Option.Rel setting.kind.Spells (inner.lookup setting.name) (chosen setting)
  congr := by
    rintro value before after same ⟨inner, entered, related⟩
    refine ⟨inner, entered, fun setting inside => ?_⟩
    rw [← same setting (decide_eq_true inside)]
    exact related setting inside

theorem wellFormed_entries {home : Section} {value : Value} {inner : List (String × Value)}
    (wellFormed : value.WellFormed) (entered : home.entries value = some inner) :
    ∀ entry ∈ inner, entry.2.WellFormed := by
  cases wellFormed with
  | table _ each =>
    obtain rfl := Option.some.inj entered
    exact each
  | array each =>
    obtain rfl := Option.some.inj entered
    exact fun entry member => each entry.2 (List.of_mem_zip member).2
  | datetime =>
    obtain rfl := Option.some.inj entered
    exact List.forall_mem_nil _
  | boolean _ | integer _ | float _ | string _ => cases entered

/-- A section takes what the fields of its entries make. -/
theorem asSection_eq_ok_iff_build (home : Section)
    (realized : Realized part (home.settings.map ofSetting) record) {value : Value}
    (wellFormed : value.WellFormed) (made : σ) :
    asSection record value = .ok made ↔
      ∃ inner, home.entries value = some inner ∧ record.build (inner.lookup ·) = some made := by
  have names : record.names = home.settings.map Setting.name := by
    rw [Record.names, names_of_played realized.played, List.map_map]
    rfl
  cases wellFormed with
  | table distinct _ =>
    have once := Schema.namedOnce_of_distinct distinct record.names
    simp only [asSection, Section.entries, Option.some_inj, exists_eq_left',
      realized.lawful.ofEntries_eq_ok_iff once]
  | array _ =>
    simp only [asSection, Section.entries, Option.some_inj, exists_eq_left', ← names,
      realized.lawful.ofItems_eq_ok_iff]
  | datetime =>
    have built : record.build (([] : List (String × Value)).lookup ·) = some record.empty := by
      refine Record.build_eq_some_iff.mpr ⟨record.empty, ?_, by rw [realized.make]⟩
      exact Field.supplyAll_of_absent (fun _ _ => rfl) record.empty
    simp only [asSection, Section.entries, Option.some_inj, exists_eq_left', built, Except.ok.injEq]
  | boolean _ | integer _ | float _ | string _ => simp [asSection, Section.entries]

theorem met_settings {home : Section} {find : String → Option Value} {chosen : Choice} :
    (∀ role ∈ home.settings.map ofSetting, role.Met find chosen) ↔
      ∀ setting, setting.home = home →
        Option.Rel setting.kind.Spells (find setting.name) (chosen setting) := by
  simp only [List.forall_mem_map, met_ofSetting, Section.mem_settings]

theorem undecided_settings {home : Section} {setting : Setting} :
    (∀ role ∈ home.settings.map ofSetting, ¬ role.decides setting = true) ↔ setting.home ≠ home := by
  simp only [List.forall_mem_map, ofSetting, decide_eq_true_eq, Section.mem_settings]
  constructor
  · exact fun undecided inside => undecided setting inside rfl
  · rintro outside other inside rfl
    exact outside inside

theorem asSection_eq_ok_iff (home : Section)
    (realized : Realized part (home.settings.map ofSetting) record) {value : Value}
    (wellFormed : value.WellFormed) (made : σ) :
    asSection record value = .ok made ↔
      ∃ own, (ofSection home).means value own ∧
        (∀ setting, setting.home ≠ home → own setting = none) ∧ part own = made := by
  have built {inner : List (String × Value)} (entered : home.entries value = some inner) :
      record.build (inner.lookup ·) = some made ↔
        ∃ own, (∀ setting, setting.home = home →
            Option.Rel setting.kind.Spells (inner.lookup setting.name) (own setting)) ∧
          (∀ setting, setting.home ≠ home → own setting = none) ∧ part own = made := by
    have found : ∀ name value, inner.lookup name = some value → value.WellFormed :=
      fun name value found => wellFormed_entries wellFormed entered _ (Association.mem_of_lookup found)
    simp only [realized.build_eq_some_iff found, met_settings, undecided_settings]
  rw [asSection_eq_ok_iff_build home realized wellFormed]
  constructor
  · rintro ⟨inner, entered, made⟩
    obtain ⟨own, related, outside, same⟩ := (built entered).mp made
    exact ⟨own, ⟨inner, entered, related⟩, outside, same⟩
  · rintro ⟨own, ⟨inner, entered, related⟩, outside, same⟩
    exact ⟨inner, entered, (built entered).mpr ⟨own, related, outside, same⟩⟩

/-- A field that takes a section, and puts it in its place. -/
theorem played_section (home : Section)
    (realized : Realized part (home.settings.map ofSetting) record) {replace : Config → σ → Config}
    (replaces : ∀ before own : Choice, replace before.overlay (part own) =
      (Choice.splice (ofSection home).decides own before).overlay) :
    Played Choice.overlay (ofSection home) (setting home.name (asSection record) replace) where
  named := rfl
  optional := rfl
  fills chosen value next wellFormed := by
    rw [setting, ← Field.replacing, Field.fill_replacing]
    simp only [asSection_eq_ok_iff home realized wellFormed]
    constructor
    · rintro ⟨-, ⟨own, means, -, rfl⟩, same⟩
      refine ⟨Choice.splice (ofSection home).decides own chosen, ?_, ?_, (replaces chosen own).symm.trans same⟩
      · exact (ofSection home).congr
          (fun _ decided => (Choice.splice_of_decided decided own chosen).symm) means
      · exact fun _ free => Choice.splice_of_free free own chosen
    · rintro ⟨later, means, kept, same⟩
      let own := Choice.splice (ofSection home).decides later .nothing
      refine ⟨part own, ⟨own, ?_, ?_, rfl⟩, ?_⟩
      · exact (ofSection home).congr
          (fun _ decided => (Choice.splice_of_decided decided later .nothing).symm) means
      · exact fun _ outside => Choice.splice_of_free (by simpa [ofSection] using outside) later .nothing
      · rw [replaces, Choice.splice_splice, Choice.splice_eq kept, same]

theorem apart_sections : (Section.all.map ofSection).Pairwise Apart :=
  pairwise_apart (by decide) Setting.home fun _ _ => of_decide_eq_true

theorem realized_document : Realized Choice.overlay (Section.all.map ofSection) document := by
  refine realized_sectionOf _ ?_ apart_sections (by decide) ?_
  · exact .cons (played_section .hub realized_hub fun _ _ => rfl)
      (.cons (played_section .rateLimit realized_rateLimit fun _ _ => rfl)
        (.cons (played_section .cache realized_cache fun _ _ => rfl)
          (.cons (played_section .metrics realized_metrics fun _ _ => rfl)
            (.cons (played_section .webserver realized_webserver fun _ _ => rfl) .nil))))
  · simp only [List.pairwise_cons, List.forall_mem_cons, List.not_mem_nil, false_implies, implies_true,
      List.Pairwise.nil, and_true]
    and_intros
    all_goals exact Field.commutes_replacing fun _ _ _ => rfl

theorem met_ofSection {home : Section} {entries : List (String × Value)} {chosen : Choice} :
    (ofSection home).Met (entries.lookup ·) chosen ↔
      (∀ value, entries.lookup home.name = some value → home.entries value ≠ none) ∧
        ∀ setting, setting.home = home →
          Option.Rel setting.kind.Spells (given entries setting) (chosen setting) := by
  have related : ∀ {setting : Setting}, setting.home = home →
      given entries setting = (entries.lookup home.name).bind fun value =>
        (home.entries value).bind fun inner => inner.lookup setting.name := by
    rintro setting rfl
    rfl
  simp only [Met, ofSection, decide_eq_true_eq]
  cases found : entries.lookup home.name with
  | none =>
    simp only [found, Option.bind_none] at related
    constructor
    · exact fun absent =>
        ⟨nofun, fun setting inside => related inside ▸ rel_none_iff.mpr (absent setting inside)⟩
    · exact fun ⟨_, settings⟩ setting inside =>
        rel_none_iff.mp (related inside ▸ settings setting inside)
  | some value =>
    cases entered : home.entries value with
    | none => simp [entered]
    | some inner =>
      simp only [found, entered, Option.bind_some] at related
      simp only [entered, Option.some_inj, exists_eq_left', forall_eq', ne_eq, reduceCtorEq,
        not_false_eq_true, true_and]
      exact forall₂_congr fun setting inside => by rw [related inside]

theorem met_sections {entries : List (String × Value)} {chosen : Choice} :
    (∀ role ∈ Section.all.map ofSection, role.Met (entries.lookup ·) chosen) ↔
      Assigns entries chosen := by
  simp only [List.forall_mem_map, met_ofSection]
  constructor
  · intro met
    exact ⟨fun home => (met home home.mem_all).1,
      fun setting => (met setting.home setting.home.mem_all).2 setting rfl⟩
  · rintro ⟨sections, settings⟩ home -
    exact ⟨sections home, fun setting _ => settings setting⟩

end Role

/-- A document is read exactly if everything that it gives fits. -/
theorem parse_eq_ok_iff {source : String} {entries : List (String × Value)}
    (parsed : Toml.parse source = some entries) (config : Config) :
    parse source = .ok config ↔ ∃ chosen, Assigns entries chosen ∧ chosen.overlay = config := by
  obtain ⟨distinct, each⟩ : Association.Distinct entries ∧ ∀ entry ∈ entries, entry.2.WellFormed := by
    cases Toml.parse_wellFormed parsed with
    | table distinct each => exact ⟨distinct, each⟩
  have once := Schema.namedOnce_of_distinct distinct document.names
  have found : ∀ name value, entries.lookup name = some value → value.WellFormed :=
    fun _ _ found => each _ (Association.mem_of_lookup found)
  have undecided (setting : Setting) :
      ¬ ∀ role ∈ Section.all.map ofSection, ¬ role.decides setting = true := by
    intro free
    exact free _ (List.mem_map_of_mem setting.home.mem_all) (decide_eq_true rfl)
  have read : parse source = .ok config ↔ document.ofEntries entries = .ok config := by
    rw [parse, parsed]
    cases outcome : document.ofEntries entries with
    | error reason => simp [outcome, Except.mapError]
    | ok found => simp [outcome, Except.mapError]
  rw [read, realized_document.lawful.ofEntries_eq_ok_iff once, realized_document.build_eq_some_iff found]
  simp only [met_sections, undecided, false_implies, implies_true, true_and]

/-- What is well-formed and is not read, is refused because something does not fit. -/
theorem exists_misfit {source : String} {entries : List (String × Value)}
    (parsed : Toml.parse source = some entries) (unfit : ∀ chosen, ¬ Assigns entries chosen) :
    ∃ reason, parse source = .error (.misfit reason) := by
  cases outcome : document.ofEntries entries with
  | ok config =>
    have read : parse source = .ok config := by
      simp [parse, parsed, outcome, Except.mapError]
    obtain ⟨chosen, assigns, -⟩ := (parse_eq_ok_iff parsed config).mp read
    exact absurd assigns (unfit chosen)
  | error reason =>
    exact ⟨reason, by simp [parse, parsed, outcome, Except.mapError]⟩

/-- A document that chooses contents for some settings lays them over the standard ones, in whatever order
and among whatever else it says it. One that gives anything else for a setting, or for a section, is
refused as a whole. -/
theorem parse_overlay {source : String} {entries : List (String × Value)}
    (parsed : Toml.parse source = some entries) :
    (∀ chosen, Assigns entries chosen → parse source = .ok chosen.overlay) ∧
      (∀ setting value, given entries setting = some value →
        (∀ content, ¬ setting.kind.Spells value content) →
          ∃ reason, parse source = .error (.misfit reason)) ∧
      ∀ (home : Section) (value : Value), entries.lookup home.name = some value →
        home.entries value = none → ∃ reason, parse source = .error (.misfit reason) := by
  refine ⟨?_, ?_, ?_⟩
  · exact fun chosen assigns => (parse_eq_ok_iff parsed _).mpr ⟨chosen, assigns, rfl⟩
  · intro setting value present unfit
    refine exists_misfit parsed fun chosen assigns => ?_
    have related := assigns.settings setting
    rw [present] at related
    obtain ⟨content, -, spells⟩ := rel_some_iff.mp related
    exact unfit content spells
  · intro home value present noSection
    exact exists_misfit parsed fun chosen assigns => assigns.sections home value present noSection

/-- A port and a whole number for a rate are laid over the standard values, with a section and a key of no
setting beside them. A port of 65536 is refused, though the rate beside it fits. -/
theorem parse_overlay_of_port :
    parse ("[other]\nport = true\n\n[webserver]\nnext = 1\nport = 9000\n\n" ++
        "[rate_limit]\nrequests_per_minute = 120\n") =
        .ok { Config.standard with
          rateLimit := { RateLimit.standard with requestsPerMinute := Float.ofInt 120 }
          webserver := { Webserver.standard with port := 9000 } } ∧
      ∃ reason, parse "[rate_limit]\nrequests_per_minute = 120\n\n[webserver]\nport = 65536\n" =
        .error (.misfit reason) := by
  let rate : String × List (String × Value) := ("rate_limit", [("requests_per_minute", .integer 120)])
  let other : String × List (String × Value) := ("other", [("port", .boolean true)])
  let server : String × List (String × Value) :=
    ("webserver", [("next", .integer 1), ("port", .integer 9000)])
  let crowded : String × List (String × Value) := ("webserver", [("port", .integer 65536)])
  have ratePlain : Toml.IsPlainSection rate.2 := ⟨by decide, by simp [rate, Toml.IsReadBack], by decide⟩
  have otherPlain : Toml.IsPlainSection other.2 := ⟨by decide, by simp [other, Toml.IsReadBack], by decide⟩
  have serverPlain : Toml.IsPlainSection server.2 :=
    ⟨by decide, by simp [server, Toml.IsReadBack], by decide⟩
  have crowdedPlain : Toml.IsPlainSection crowded.2 :=
    ⟨by decide, by simp [crowded, Toml.IsReadBack], by decide⟩
  constructor
  · have written : Toml.sections? [other, server, rate] = some
        ("[other]\nport = true\n\n[webserver]\nnext = 1\nport = 9000\n\n" ++
          "[rate_limit]\nrequests_per_minute = 120\n").toList := by
      decide +kernel
    have parsed := Toml.parse_sections (by decide) (by decide) (by simp [otherPlain, serverPlain, ratePlain])
      written
    rw [String.ofList_toList] at parsed
    let chosen : Choice := Function.update (Function.update Choice.nothing .port (some (9000 : Nat)))
      .requestsPerMinute (some (Float.ofInt 120))
    refine (parse_overlay parsed).1 chosen ⟨?_, ?_⟩
    · rintro ⟨⟩ value present <;> cases present <;> simp [Section.entries]
    · intro setting
      cases setting with
      | port => exact .some (.count (by decide))
      | requestsPerMinute => exact .some (.whole 120)
      | inboxCapacity | subscriberBuffer | limitEnabled | limitSweepInterval | defaultTtl
      | cacheSweepInterval | windowSize | host | corsEnabled | heartbeat | clientIdleTimeout =>
        exact .none
  · have written : Toml.sections? [rate, crowded] = some
        "[rate_limit]\nrequests_per_minute = 120\n\n[webserver]\nport = 65536\n".toList := by
      decide +kernel
    have parsed := Toml.parse_sections (by decide) (by decide) (by simp [crowdedPlain, ratePlain]) written
    rw [String.ofList_toList] at parsed
    refine (parse_overlay parsed).2.1 .port (.integer 65536) rfl ?_
    intro content spells
    generalize tooGreat : (65536 : Int) = number at spells
    cases spells with
    | count inRange => omega

end Dashboard.Config
