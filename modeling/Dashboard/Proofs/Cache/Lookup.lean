import Dashboard.Cache.Service
import Dashboard.Proofs.Association

namespace Dashboard.Cache

namespace Store

variable {α : Type} {store : Store α}

/-- The value that a look-up of a name finds at an instant. -/
def valueAt (store : Store α) (name : String) (now : Instant) : Option α :=
  ((store.find? name).filter fun entry => !entry.isExpired now).map Entry.value

/-- What is left at an instant of a value that was stored with an expiry. -/
def leftAt (content : Option (α × Instant)) (now : Instant) : Option α :=
  (content.filter fun kept => now < kept.2).map Prod.fst

theorem get_fst (store : Store α) (name : String) (now : Instant) :
    (store.get name now).1 = store.valueAt name now := by
  cases found : store.find? name with
  | none => simp [get, valueAt, found]
  | some entry =>
    by_cases expired : entry.isExpired now = true
    · simp [get, valueAt, found, expired, Option.filter]
    · simp [get, valueAt, found, expired, Option.filter]

theorem get_entries (store : Store α) (name : String) (now : Instant) :
    (store.get name now).2.entries = store.entries := by
  simp only [get]
  split
  · split <;> rfl
  · rfl

theorem valueAt_of_entries {other : Store α} (same : other.entries = store.entries) (name : String)
    (now : Instant) : other.valueAt name now = store.valueAt name now := by
  simp only [valueAt, find?, same]

theorem set?_entries {after : Store α} {name : String} {value : α} {ttl : Duration} {now : Instant}
    (set : store.set? name value ttl now = some after) :
    ∃ expiry, expiry? now ttl = some expiry ∧
      after.entries = Association.put name ⟨value, expiry⟩ store.entries := by
  obtain ⟨expiry, expires, rfl⟩ := Option.map_eq_some_iff.mp set
  exact ⟨expiry, expires, rfl⟩

theorem valueAt_put {after : Store α} {name : String} {value : α} {expiry : Instant}
    (entries : after.entries = Association.put name ⟨value, expiry⟩ store.entries) (other : String)
    (now : Instant) :
    after.valueAt other now =
      if name = other then leftAt (some (value, expiry)) now else store.valueAt other now := by
  by_cases same : other = name
  · subst same
    by_cases alive : now < expiry
    · have fresh : ¬ expiry ≤ now := Int.not_le.mpr alive
      simp [valueAt, find?, entries, Association.lookup_put, leftAt, Entry.isExpired, alive, fresh,
        Option.filter]
    · have gone : expiry ≤ now := Int.not_lt.mp alive
      simp [valueAt, find?, entries, Association.lookup_put, leftAt, Entry.isExpired, alive, gone,
        Option.filter]
  · simp [valueAt, find?, entries, Association.lookup_put, same, Ne.symm same]

theorem valueAt_delete (store : Store α) (name other : String) (now : Instant) :
    (store.delete name).valueAt other now =
      if name = other then leftAt none now else store.valueAt other now := by
  simp only [valueAt, find?, delete, Association.lookup_filter_ne]
  by_cases same : other = name
  · simp [same, leftAt]
  · simp [same, Ne.symm same]

/-- What has expired when a sweep drops it would be expired at every later look-up. -/
theorem valueAt_sweep (distinct : Association.Distinct store.entries) (name : String)
    {now later : Instant} (order : now ≤ later) :
    (store.sweep now).2.valueAt name later = store.valueAt name later := by
  have found : (store.sweep now).2.find? name =
      (store.find? name).filter fun entry => !entry.isExpired now :=
    distinct.lookup_filter (fun entry : Entry α => !entry.isExpired now) name
  simp only [valueAt, found]
  cases store.find? name with
  | none => rfl
  | some entry =>
    by_cases expired : entry.isExpired now = true
    · have expiredLater : entry.isExpired later = true := by
        have gone : entry.expiry ≤ now := by simpa [Entry.isExpired] using expired
        simpa [Entry.isExpired] using Instant.le_trans gone order
      simp [Option.filter, expired, expiredLater]
    · simp [Option.filter, expired]

theorem sweep_distinct (distinct : Association.Distinct store.entries) (now : Instant) :
    Association.Distinct (store.sweep now).2.entries :=
  distinct.filter _

end Store

namespace Service

variable {α : Type} {service : Service α}

theorem setFor?_eq_none {name : String} {value : α} {ttl : Duration} {now : Instant} :
    service.setFor? name value ttl now = none ↔ Store.expiry? now ttl = none := by
  simp [setFor?, Store.set?]

theorem setFor?_entries {after : Service α} {name : String} {value : α} {ttl : Duration}
    {now : Instant} (set : service.setFor? name value ttl now = some after) :
    ∃ expiry, Store.expiry? now ttl = some expiry ∧ after.settings = service.settings ∧
      after.store.entries = Association.put name ⟨value, expiry⟩ service.store.entries := by
  obtain ⟨store, stored, rfl⟩ := Option.map_eq_some_iff.mp set
  obtain ⟨expiry, expires, entries⟩ := Store.set?_entries stored
  exact ⟨expiry, expires, rfl, entries⟩

theorem sweepMany_settings (service : Service α) (now : Instant) (times : Nat) :
    (service.sweepMany now times).1.settings = service.settings := by
  induction times with
  | zero => rfl
  | succ times inductionHypothesis => exact inductionHypothesis

theorem sweepMany_distinct (service : Service α)
    (distinct : Association.Distinct service.store.entries) (now : Instant) (times : Nat) :
    Association.Distinct (service.sweepMany now times).1.store.entries := by
  induction times with
  | zero => exact distinct
  | succ times inductionHypothesis => exact Store.sweep_distinct inductionHypothesis now

theorem sweepMany_valueAt (service : Service α)
    (distinct : Association.Distinct service.store.entries) (name : String) {now later : Instant}
    (order : now ≤ later) (times : Nat) :
    (service.sweepMany now times).1.store.valueAt name later = service.store.valueAt name later := by
  induction times with
  | zero => rfl
  | succ times inductionHypothesis =>
    exact (Store.valueAt_sweep (sweepMany_distinct service distinct now times) name order).trans
      inductionHypothesis

/-- The work of the sweepers is some number of sweeps. -/
theorem run_eq_sweepMany (service : Service α) (wheel : Background.Wheel) (now : Instant) :
    ∃ sweepers times,
      (service.run wheel now).1 = ({ service with sweepers := sweepers }.sweepMany now times).1 :=
  ⟨_, _, rfl⟩

end Service
end Dashboard.Cache
