import Dashboard.Proofs.Config.RoundTrip
import Mathlib.Data.List.Nodup

namespace Dashboard.Config

open Schema (Misfit)
open Toml (Value)

/-- What a setting is. A count has a greatest number. -/
inductive Kind where
  | switch
  | text
  | float
  | count (greatest : Nat)

abbrev Kind.Content : Kind → Type
  | switch => Bool
  | text => String
  | float => Float
  | count _ => Nat

/-- Which values say a content. A whole number may stand for a float. -/
inductive Kind.Spells : (kind : Kind) → Value → kind.Content → Prop where
  | switch (isOn : Bool) : Spells .switch (.boolean isOn) isOn
  | text (text : String) : Spells .text (.string text) text
  | float (number : Float) : Spells .float (.float number) number
  | whole (number : Int) : Spells .float (.integer number) (Float.ofInt number)
  | count {greatest number : Nat} (inRange : number ≤ greatest) :
    Spells (.count greatest) (.integer number) number

inductive Section where
  | hub
  | rateLimit
  | cache
  | metrics
  | webserver
deriving DecidableEq

inductive Setting where
  | inboxCapacity
  | subscriberBuffer
  | limitEnabled
  | requestsPerMinute
  | limitSweepInterval
  | defaultTtl
  | cacheSweepInterval
  | windowSize
  | host
  | port
  | corsEnabled
  | heartbeat
  | clientIdleTimeout
deriving DecidableEq

def Section.name : Section → String
  | hub => "hub"
  | rateLimit => "rate_limit"
  | cache => "cache"
  | metrics => "metrics"
  | webserver => "webserver"

namespace Setting

def home : Setting → Section
  | inboxCapacity | subscriberBuffer => .hub
  | limitEnabled | requestsPerMinute | limitSweepInterval => .rateLimit
  | defaultTtl | cacheSweepInterval => .cache
  | windowSize => .metrics
  | host | port | corsEnabled | heartbeat | clientIdleTimeout => .webserver

def name : Setting → String
  | inboxCapacity => "inbox_capacity"
  | subscriberBuffer => "subscriber_buffer"
  | limitEnabled => "enabled"
  | requestsPerMinute => "requests_per_minute"
  | limitSweepInterval => "sweep_interval_secs"
  | defaultTtl => "default_ttl_secs"
  | cacheSweepInterval => "sweep_interval_secs"
  | windowSize => "window_size"
  | host => "host"
  | port => "port"
  | corsEnabled => "cors_enabled"
  | heartbeat => "heartbeat_secs"
  | clientIdleTimeout => "client_idle_timeout_secs"

def kind : Setting → Kind
  | limitEnabled | corsEnabled => .switch
  | host => .text
  | requestsPerMinute => .float
  | port => .count 0xffff
  | inboxCapacity | subscriberBuffer | limitSweepInterval | defaultTtl | cacheSweepInterval
  | windowSize | heartbeat | clientIdleTimeout => .count 0xffffffffffffffff

end Setting

/-- The settings of a section in their order. -/
def Section.settings : Section → List Setting
  | hub => [.inboxCapacity, .subscriberBuffer]
  | rateLimit => [.limitEnabled, .requestsPerMinute, .limitSweepInterval]
  | cache => [.defaultTtl, .cacheSweepInterval]
  | metrics => [.windowSize]
  | webserver => [.host, .port, .corsEnabled, .heartbeat, .clientIdleTimeout]

def Section.all : List Section := [hub, rateLimit, cache, metrics, webserver]

theorem Section.mem_all (home : Section) : home ∈ all := by
  cases home <;> decide

theorem Section.mem_settings {home : Section} {setting : Setting} :
    setting ∈ home.settings ↔ setting.home = home := by
  cases home <;> cases setting <;> decide

theorem Section.distinct_names (home : Section) : (home.settings.map Setting.name).Nodup := by
  cases home <;> decide

abbrev Choice : Type := (setting : Setting) → Option setting.kind.Content

namespace Choice

def nothing : Choice := fun _ => none

def hub (chosen : Choice) : Hub where
  inboxCapacity := (chosen .inboxCapacity).getD Hub.standard.inboxCapacity
  subscriberBuffer := (chosen .subscriberBuffer).getD Hub.standard.subscriberBuffer

def rateLimit (chosen : Choice) : RateLimit where
  enabled := (chosen .limitEnabled).getD RateLimit.standard.enabled
  requestsPerMinute := (chosen .requestsPerMinute).getD RateLimit.standard.requestsPerMinute
  sweepIntervalSeconds := (chosen .limitSweepInterval).getD RateLimit.standard.sweepIntervalSeconds

def cache (chosen : Choice) : Cache where
  defaultTtlSeconds := (chosen .defaultTtl).getD Cache.standard.defaultTtlSeconds
  sweepIntervalSeconds := (chosen .cacheSweepInterval).getD Cache.standard.sweepIntervalSeconds

def metrics (chosen : Choice) : Metrics where
  windowSize := (chosen .windowSize).getD Metrics.standard.windowSize

def webserver (chosen : Choice) : Webserver where
  host := (chosen .host).getD Webserver.standard.host
  port := (chosen .port).getD Webserver.standard.port
  corsEnabled := (chosen .corsEnabled).getD Webserver.standard.corsEnabled
  heartbeatSeconds := (chosen .heartbeat).getD Webserver.standard.heartbeatSeconds
  clientIdleTimeoutSeconds :=
    (chosen .clientIdleTimeout).getD Webserver.standard.clientIdleTimeoutSeconds

/-- The standard settings with what is chosen in their places. -/
def overlay (chosen : Choice) : Config :=
  ⟨chosen.hub, chosen.rateLimit, chosen.cache, chosen.metrics, chosen.webserver⟩

/-- One choice for some settings and another one for the others. -/
def splice (decides : Setting → Bool) (own others : Choice) : Choice := fun setting =>
  if decides setting then own setting else others setting

theorem splice_of_decided {decides : Setting → Bool} {setting : Setting}
    (decided : decides setting = true) (own others : Choice) :
    splice decides own others setting = own setting := if_pos decided

theorem splice_of_free {decides : Setting → Bool} {setting : Setting}
    (free : ¬ decides setting = true) (own others : Choice) :
    splice decides own others setting = others setting := if_neg free

theorem splice_splice (decides : Setting → Bool) (own between others : Choice) :
    splice decides (splice decides own between) others = splice decides own others := by
  funext setting
  by_cases decided : decides setting = true
  · simp only [splice_of_decided decided]
  · simp only [splice_of_free decided]

/-- Where two choices agree on all others, only what is decided differs. -/
theorem splice_eq {decides : Setting → Bool} {own others : Choice}
    (agree : ∀ setting, ¬ decides setting = true → own setting = others setting) :
    splice decides own others = own := by
  funext setting
  by_cases decided : decides setting = true
  · exact splice_of_decided decided own others
  · rw [splice_of_free decided, agree setting decided]

end Choice

/-- The entries of a section: those of a table, or the items of a list under the names of the first
fields. A date is a table without entries. -/
def Section.entries (home : Section) : Value → Option (List (String × Value))
  | .table entries => some entries
  | .array items => some ((home.settings.map Setting.name).zip items)
  | .datetime => some []
  | .boolean _ | .integer _ | .float _ | .string _ => none

/-- The value that a document gives for a setting. -/
def given (entries : List (String × Value)) (setting : Setting) : Option Value := do
  let inner ← setting.home.entries (← entries.lookup setting.home.name)
  inner.lookup setting.name

/-- Whether a document chooses just these contents: every section that it has is one, and what it gives
for a setting says the content of the setting. -/
structure Assigns (entries : List (String × Value)) (chosen : Choice) : Prop where
  sections : ∀ (home : Section) (value : Value), entries.lookup home.name = some value →
    home.entries value ≠ none
  settings : ∀ setting, Option.Rel setting.kind.Spells (given entries setting) (chosen setting)

theorem rel_none_iff {α β : Type} {related : α → β → Prop} {content : Option β} :
    Option.Rel related none content ↔ content = none := by
  constructor
  · rintro ⟨⟩
    rfl
  · rintro rfl
    exact .none

theorem rel_some_iff {α β : Type} {related : α → β → Prop} {value : α} {chosen : Option β} :
    Option.Rel related (some value) chosen ↔
      ∃ content, chosen = some content ∧ related value content := by
  constructor
  · rintro ⟨holds⟩
    exact ⟨_, rfl, holds⟩
  · rintro ⟨content, rfl, holds⟩
    exact .some holds

theorem asBoolean_eq_ok_iff (value : Value) (isOn : Bool) :
    asBoolean value = .ok isOn ↔ Kind.switch.Spells value isOn := by
  constructor
  · intro decoded
    cases value with
    | boolean found =>
      obtain rfl := Except.ok.inj decoded
      exact .switch found
    | integer _ | float _ | string _ | datetime | array _ | table _ => cases decoded
  · rintro ⟨⟩
    rfl

theorem asText_eq_ok_iff (value : Value) (text : String) :
    asText value = .ok text ↔ Kind.text.Spells value text := by
  constructor
  · intro decoded
    cases value with
    | string found =>
      obtain rfl := Except.ok.inj decoded
      exact .text found
    | boolean _ | integer _ | float _ | datetime | array _ | table _ => cases decoded
  · rintro ⟨⟩
    rfl

theorem asFloat_eq_ok_iff (value : Value) (number : Float) :
    asFloat value = .ok number ↔ Kind.float.Spells value number := by
  constructor
  · intro decoded
    cases value with
    | float found =>
      obtain rfl := Except.ok.inj decoded
      exact .float found
    | integer found =>
      obtain rfl := Except.ok.inj decoded
      exact .whole found
    | boolean _ | string _ | datetime | array _ | table _ => cases decoded
  · rintro ⟨⟩ <;> rfl

theorem asCount_eq_ok_iff {kind : Schema.IntegerKind} {greatest : Nat} (least : kind.least = 0)
    (most : kind.greatest = greatest) (value : Value) (count : Nat) :
    asCount kind value = .ok count ↔ (Kind.count greatest).Spells value count := by
  constructor
  · intro decoded
    cases value with
    | integer found =>
      simp only [asCount, Schema.IntegerKind.check, least, most] at decoded
      split at decoded
      · rename_i inRange
        obtain rfl := Except.ok.inj decoded
        have same : ((found.toNat : Nat) : Int) = found := Int.toNat_of_nonneg inRange.1
        rw [← same]
        exact .count (by omega)
      · cases decoded
    | boolean _ | float _ | string _ | datetime | array _ | table _ => cases decoded
  · rintro (_ | _ | _ | _ | inRange)
    simp [asCount, Schema.IntegerKind.check, least, most, inRange, Except.map]

def Kind.value : (kind : Kind) → kind.Content → Value
  | .switch, isOn => .boolean isOn
  | .text, written => .string written
  | .float, number => .float number
  | .count _, number => .integer (number : Nat)

/-- Whether a content can be said: a count is in its range and in that of the format, and the digits of a
float are read back as the float. -/
def Kind.Sayable : (kind : Kind) → kind.Content → Prop
  | .switch, _ => True
  | .text, _ => True
  | .float, number => Toml.IsReadBack (.float number)
  | .count greatest, number => number ≤ greatest ∧ IsHeld number

theorem Kind.Sayable.spells {kind : Kind} {content : kind.Content} (sayable : kind.Sayable content) :
    kind.Spells (kind.value content) content := by
  cases kind with
  | switch => exact .switch content
  | text => exact .text content
  | float => exact .float content
  | count greatest => exact .count sayable.1

theorem Kind.Sayable.isReadBack {kind : Kind} {content : kind.Content}
    (sayable : kind.Sayable content) : Toml.IsReadBack (kind.value content) := by
  cases kind with
  | switch | text | count _ => trivial
  | float => exact sayable

theorem Kind.Sayable.isSome_scalarText? {kind : Kind} {content : kind.Content}
    (sayable : kind.Sayable content) : (Toml.scalarText? (kind.value content)).isSome = true := by
  cases kind with
  | switch | text | float => rfl
  | count greatest => exact scalarText?_count sayable.2

namespace Choice

/-- What a choice says for one setting, if anything. -/
def field? (chosen : Choice) (setting : Setting) : Option (String × Value) :=
  (chosen setting).map fun content => (setting.name, setting.kind.value content)

def said (chosen : Choice) : List (String × List (String × Value)) :=
  Section.all.map fun home => (home.name, home.settings.filterMap chosen.field?)

theorem keys_filterMap (chosen : Choice) (settings : List Setting) :
    (settings.filterMap chosen.field?).map Prod.fst =
      (settings.filter fun setting => (chosen setting).isSome).map Setting.name := by
  induction settings with
  | nil => rfl
  | cons setting settings inductionHypothesis =>
    cases content : chosen setting with
    | none => simpa [field?, content] using inductionHypothesis
    | some found => simpa [field?, content] using inductionHypothesis

theorem distinct_filterMap (chosen : Choice) (home : Section) :
    Association.Distinct (home.settings.filterMap chosen.field?) := by
  rw [Association.Distinct, keys_filterMap]
  exact home.distinct_names.sublist (List.filter_sublist.map Setting.name)

theorem given_said (chosen : Choice) (setting : Setting) :
    given (chosen.said.map fun entry => (entry.1, .table entry.2)) setting =
      (chosen setting).map setting.kind.value := by
  have inside : given (chosen.said.map fun entry => (entry.1, .table entry.2)) setting =
      (setting.home.settings.filterMap chosen.field?).lookup setting.name := by
    cases setting <;> rfl
  have distinct := chosen.distinct_filterMap setting.home
  rw [inside]
  ext value
  rw [← distinct.mem_iff, List.mem_filterMap]
  constructor
  · rintro ⟨other, member, said⟩
    obtain ⟨content, own, same⟩ := Option.map_eq_some_iff.mp said
    obtain ⟨named, rfl⟩ := Prod.mk.inj same
    obtain rfl : other = setting := List.inj_on_of_nodup_map setting.home.distinct_names member
      (Section.mem_settings.mpr rfl) named
    rw [own]
    rfl
  · intro said
    obtain ⟨content, own, rfl⟩ := Option.map_eq_some_iff.mp said
    exact ⟨setting, Section.mem_settings.mpr rfl, by rw [field?, own]; rfl⟩

theorem mem_said {chosen : Choice} {entry : String × List (String × Value)}
    (member : entry ∈ chosen.said) {field : String × Value} (inside : field ∈ entry.2) :
    ∃ setting : Setting, ∃ content, chosen setting = some content ∧
      field = (setting.name, setting.kind.value content) := by
  obtain ⟨home, -, rfl⟩ := List.mem_map.mp member
  obtain ⟨setting, -, said⟩ := List.mem_filterMap.mp inside
  obtain ⟨content, own, rfl⟩ := Option.map_eq_some_iff.mp said
  exact ⟨setting, content, own, rfl⟩

end Choice

theorem isBareName_section (home : Section) : Toml.IsBareName home.name := by
  cases home <;> decide

theorem isBareName_setting (setting : Setting) : Toml.IsBareName setting.name := by
  cases setting <;> decide

namespace Choice

/-- Whether everything that is chosen can be said. -/
def Sayable (chosen : Choice) : Prop :=
  ∀ setting content, chosen setting = some content → setting.kind.Sayable content

theorem isBareName_said {chosen : Choice} : ∀ entry ∈ chosen.said, Toml.IsBareName entry.1 := by
  intro entry member
  obtain ⟨home, -, rfl⟩ := List.mem_map.mp member
  exact isBareName_section home

theorem distinct_said (chosen : Choice) : Association.Distinct chosen.said := by
  change (Section.all.map Section.name).Nodup
  decide

theorem Sayable.isPlainSection {chosen : Choice} (sayable : chosen.Sayable) :
    ∀ entry ∈ chosen.said, Toml.IsPlainSection entry.2 := by
  intro entry member
  refine ⟨?_, ?_, ?_⟩
  · intro field inside
    obtain ⟨setting, content, -, rfl⟩ := mem_said member inside
    exact isBareName_setting setting
  · intro field inside
    obtain ⟨setting, content, own, rfl⟩ := mem_said member inside
    exact (sayable setting content own).isReadBack
  · obtain ⟨home, -, rfl⟩ := List.mem_map.mp member
    exact chosen.distinct_filterMap home

theorem Sayable.isSome_sections? {chosen : Choice} (sayable : chosen.Sayable) :
    (Toml.sections? chosen.said).isSome = true := by
  apply Toml.sections?_isSome
  intro entry member field inside
  obtain ⟨setting, content, own, rfl⟩ := mem_said member inside
  exact (sayable setting content own).isSome_scalarText?

end Choice

/-- Contents that can be said make a document that chooses just them. -/
theorem exists_document {chosen : Choice} (sayable : chosen.Sayable) :
    ∃ source entries, Toml.parse source = some entries ∧ Assigns entries chosen := by
  obtain ⟨text, written⟩ := Option.isSome_iff_exists.mp sayable.isSome_sections?
  have parsed := Toml.parse_sections Choice.isBareName_said chosen.distinct_said sayable.isPlainSection
    written
  refine ⟨String.ofList text, _, parsed, ?_, ?_⟩
  · rintro ⟨⟩ value found <;> cases found <;> simp [Section.entries]
  · intro setting
    rw [Choice.given_said]
    cases own : chosen setting with
    | none => exact .none
    | some content => exact .some (sayable setting content own).spells

end Dashboard.Config
