import Dashboard.Proofs.Cache.Ledger

/-! Nothing is lost in a cache and nothing counted twice. Whatever the clock does, the keys that came are
those that are there and those that were swept, deleted or cleared away; and a sweep takes exactly what
has expired. -/

namespace Dashboard.Cache

/-- The keys that come into a cache and those that go, each in its way. -/
structure Turnover where
  created : Nat
  swept : Nat
  deleted : Nat
  cleared : Nat
deriving DecidableEq, Repr

namespace Turnover

def none : Turnover := ⟨0, 0, 0, 0⟩

def add (first second : Turnover) : Turnover where
  created := first.created + second.created
  swept := first.swept + second.swept
  deleted := first.deleted + second.deleted
  cleared := first.cleared + second.cleared

end Turnover

/-- The call asks for the value of a key, alone or before it computes one. -/
def Operation.isLookup {α : Type} : Operation α → Bool
  | .get _ _ | .seek _ _ _ => true
  | _ => false

namespace Service

variable {α : Type}

/-- What a store under a key brings in: the key, if it was not there. -/
def broughtIn (service : Service α) (key : String) (stored? : Option (Service α)) : Turnover :=
  { Turnover.none with
    created := if stored?.isSome && (service.store.find? key).isNone then 1 else 0 }

/-- The sum of what so many sweeps in a row answer. -/
def sweptBy (service : Service α) (now : Instant) : Nat → Nat
  | 0 => 0
  | times + 1 =>
    service.sweptBy now times + ((service.sweepMany now times).1.sweep now).1

/-- How many sweeps the background sweepers owe. -/
def sweepsDue (service : Service α) (wheel : Background.Wheel) (now : Instant) : Nat :=
  (service.sweepers.run wheel now).1

/-- The sum of what the sweeps answer that the background sweepers owe. -/
def sweptInBackground (service : Service α) (wheel : Background.Wheel) (now : Instant) : Nat :=
  { service with sweepers := (service.sweepers.run wheel now).2 }.sweptBy now
    (service.sweepsDue wheel now)

end Service

namespace Session

variable {α : Type}

/-- The keys that an operation brings in and takes away. What a sweep takes is what it answers; a deletion
takes the key if it is there, expired or not; and clearing takes all there are. -/
def turnover (session : Session α) : Operation α → Turnover
  | .set key value now => session.service.broughtIn key (session.service.set? key value now)
  | .setFor key value ttl now =>
    session.service.broughtIn key (session.service.setFor? key value ttl now)
  | .supply call value now =>
    match session.computing call with
    | some key => session.service.broughtIn key (session.service.set? key value now)
    | none => .none
  | .delete key =>
    { Turnover.none with deleted := if (session.service.store.find? key).isSome then 1 else 0 }
  | .clear => { Turnover.none with cleared := session.service.store.size }
  | .sweep now => { Turnover.none with swept := (session.service.sweep now).1 }
  | .sweepDue wheel now =>
    { Turnover.none with swept := session.service.sweptInBackground wheel now }
  | .get _ _ | .seek _ _ _ | .spawnSweeper _ | .stopSweeper => .none

def turnoverOf (session : Session α) : List (Operation α) → Turnover
  | [] => .none
  | operation :: rest => (session.turnover operation).add ((session.step operation).turnoverOf rest)

end Session

/-- How a store has come from another one by a number of look-ups and a turnover. -/
structure Accounts {α : Type} (before : Store α) (lookups : Nat) (turnover : Turnover)
    (after : Store α) : Prop where
  distinct : Association.Distinct after.entries
  lookups : after.hits + after.misses = before.hits + before.misses + lookups
  swept : after.expired = before.expired + turnover.swept
  size : after.size + turnover.swept + turnover.deleted + turnover.cleared =
    before.size + turnover.created

namespace Accounts

variable {α : Type} {before middle after : Store α} {lookups more : Nat}
  {turnover further : Turnover}

theorem refl (distinct : Association.Distinct before.entries) :
    Accounts before 0 .none before where
  distinct := distinct
  lookups := rfl
  swept := rfl
  size := rfl

theorem trans (first : Accounts before lookups turnover middle)
    (second : Accounts middle more further after) :
    Accounts before (lookups + more) (turnover.add further) after where
  distinct := second.distinct
  lookups := by have := first.lookups; have := second.lookups; omega
  swept := by have := first.swept; have := second.swept; simp only [Turnover.add]; omega
  size := by have := first.size; have := second.size; simp only [Turnover.add]; omega

theorem put (distinct : Association.Distinct before.entries) (key : String) (entry : Entry α) :
    Accounts before 0
      { Turnover.none with created := if (before.find? key).isSome then 0 else 1 }
      { before with entries := Association.put key entry before.entries } where
  distinct := distinct.put key entry
  lookups := rfl
  swept := rfl
  size := Association.length_put key entry before.entries

theorem get (distinct : Association.Distinct before.entries) (key : String) (now : Instant) :
    Accounts before 1 .none (before.get key now).2 where
  distinct := by rw [before.get_entries key now]; exact distinct
  lookups := by
    obtain ⟨hits, misses⟩ := before.get_counts key now
    rw [hits, misses]
    split
    · exact Nat.add_right_comm _ _ _
    · rfl
  swept := by
    simp only [Store.get]
    split
    · split <;> rfl
    · rfl
  size := by simp only [Store.size, before.get_entries key now]; rfl

theorem delete (distinct : Association.Distinct before.entries) (key : String) :
    Accounts before 0 { Turnover.none with deleted := if (before.find? key).isSome then 1 else 0 }
      (before.delete key) where
  distinct := distinct.filter _
  lookups := rfl
  swept := rfl
  size := distinct.length_filter_ne key

theorem clear : Accounts before 0 { Turnover.none with cleared := before.size } before.clear where
  distinct := List.nodup_nil
  lookups := rfl
  swept := rfl
  size := Nat.zero_add _

theorem sweep (distinct : Association.Distinct before.entries) (now : Instant) :
    Accounts before 0 { Turnover.none with swept := (before.sweep now).1 } (before.sweep now).2 where
  distinct := distinct.filter _
  lookups := rfl
  swept := rfl
  size := by
    have fewer : (before.sweep now).2.entries.length ≤ before.entries.length :=
      List.length_filter_le _ _
    change (before.sweep now).2.entries.length +
      (before.entries.length - (before.sweep now).2.entries.length) + 0 + 0 = before.entries.length
    omega

end Accounts

namespace Service

variable {α : Type}

/-- A store brings in its key; one for which there is no expiry brings in nothing. -/
theorem accounts_setFor? (service : Service α)
    (distinct : Association.Distinct service.store.entries) (key : String) (value : α)
    (ttl : Duration) (now : Instant) :
    Accounts service.store 0 (service.broughtIn key (service.setFor? key value ttl now))
      ((service.setFor? key value ttl now).getD service).store := by
  cases expires : Store.expiry? now ttl with
  | none =>
    rw [setFor?_eq_none.mpr expires]
    exact .refl distinct
  | some expiry =>
    have placed := Accounts.put distinct key ⟨value, expiry⟩
    cases present : service.store.find? key with
    | none => simpa [broughtIn, setFor?, Store.set?, expires, present] using placed
    | some entry => simpa [broughtIn, setFor?, Store.set?, expires, present] using placed

theorem accounts_sweepMany (service : Service α)
    (distinct : Association.Distinct service.store.entries) (now : Instant) (times : Nat) :
    Accounts service.store 0 { Turnover.none with swept := service.sweptBy now times }
      (service.sweepMany now times).1.store := by
  induction times with
  | zero => exact .refl distinct
  | succ times inductionHypothesis =>
    exact inductionHypothesis.trans (.sweep inductionHypothesis.distinct now)

end Service

namespace Session

variable {α : Type}

theorem write_store (session : Session α) (service? : Option (Service α)) (answer : Option α) :
    (session.write service? answer).service = service?.getD session.service := by
  cases service? <;> rfl

/-- What one operation does, at any reading of the clock. -/
theorem accounts_step (session : Session α)
    (distinct : Association.Distinct session.service.store.entries) (operation : Operation α) :
    Accounts session.service.store (if operation.isLookup then 1 else 0) (session.turnover operation)
      (session.step operation).service.store := by
  cases operation with
  | set key value now =>
    simp only [step, write_store]
    exact session.service.accounts_setFor? distinct key value _ now
  | setFor key value ttl now =>
    simp only [step, write_store]
    exact session.service.accounts_setFor? distinct key value ttl now
  | get key now => exact .get distinct key now
  | seek call key now => exact .get distinct key now
  | supply call value now =>
    simp only [step, turnover]
    cases session.computing call with
    | none => exact .refl distinct
    | some key =>
      simp only [turn, write_store]
      exact session.service.accounts_setFor? distinct key value _ now
  | delete key => exact .delete distinct key
  | clear => exact .clear
  | sweep now => exact .sweep distinct now
  | sweepDue wheel now =>
    exact Service.accounts_sweepMany
      { session.service with sweepers := (session.service.sweepers.run wheel now).2 } distinct now
      (session.service.sweepsDue wheel now)
  | spawnSweeper now => exact .refl distinct
  | stopSweeper => exact .refl distinct

theorem accounts_run (session : Session α)
    (distinct : Association.Distinct session.service.store.entries)
    (operations : List (Operation α)) :
    Accounts session.service.store (operations.countP Operation.isLookup) (session.turnoverOf operations)
      (session.run operations).service.store := by
  induction operations generalizing session with
  | nil => exact .refl distinct
  | cons operation rest inductionHypothesis =>
    have first := session.accounts_step distinct operation
    have others := inductionHypothesis (session.step operation) first.distinct
    rw [List.countP_cons, Nat.add_comm]
    exact first.trans others

end Session

namespace Store

variable {α : Type} {before after : Store α} {now : Instant} {removed : Nat}

/-- The entries that had expired are gone, as many as it says, and the others are there as they were, with
their values and expiries. -/
structure IsSwept (before : Store α) (now : Instant) (removed : Nat) (after : Store α) : Prop where
  find? : ∀ key, after.find? key = (before.find? key).filter fun entry => now < entry.expiry
  removed : removed = before.entries.countP fun present => present.2.expiry ≤ now

theorem IsSwept.of_entries (distinct : Association.Distinct before.entries)
    (entries : after.entries = before.entries.filter fun present => !present.2.isExpired now)
    (size : after.size + removed = before.size) : IsSwept before now removed after where
  find? key := by
    have found := distinct.lookup_filter (fun entry : Entry α => !entry.isExpired now) key
    rw [← entries] at found
    refine found.trans (congrArg (Option.filter · _) (funext fun entry => ?_))
    simp [Entry.isExpired, Instant.le_iff, Instant.lt_iff, ← decide_not]
  removed := by
    have parts := List.length_eq_countP_add_countP
      (fun present : String × Entry α => !present.2.isExpired now) (l := before.entries)
    rw [List.countP_eq_length_filter, ← entries] at parts
    simp only [Entry.isExpired, Bool.not_eq_true', decide_eq_false_iff_not, Decidable.not_not] at parts
    simp only [Store.size] at size
    omega

theorem isSwept_sweep (distinct : Association.Distinct before.entries) (now : Instant) :
    before.IsSwept now (before.sweep now).1 (before.sweep now).2 :=
  .of_entries distinct rfl (Accounts.sweep distinct now).size

end Store

namespace Service

variable {α : Type}

/-- Sweeps behind the first one find nothing to take. -/
theorem sweepMany_entries (service : Service α) (now : Instant) (times : Nat) :
    (service.sweepMany now (times + 1)).1.store.entries =
      service.store.entries.filter fun present => !present.2.isExpired now := by
  induction times with
  | zero => rfl
  | succ times inductionHypothesis =>
    change (service.sweepMany now (times + 1)).1.store.entries.filter _ = _
    rw [inductionHypothesis, List.filter_filter]
    simp only [Bool.and_self]

theorem isSwept_sweepMany (service : Service α)
    (distinct : Association.Distinct service.store.entries) (now : Instant) (times : Nat) :
    service.store.IsSwept now (service.sweptBy now (times + 1))
      (service.sweepMany now (times + 1)).1.store :=
  .of_entries distinct (service.sweepMany_entries now times)
    (service.accounts_sweepMany distinct now (times + 1)).size

end Service

/-- In every run, whatever the clock does, each look-up is a hit or a miss, what was swept is what the
sweeps have answered, and the keys that were created are those that are there and those that were swept,
deleted or cleared away. A sweep that comes next, by hand or from the background, takes exactly what has
expired. -/
theorem created_eq_size_add_removed {α : Type} (settings : Settings)
    (operations : List (Operation α)) :
    let service := ((Session.start settings).run operations).service
    let turnover := (Session.start settings).turnoverOf operations
    service.store.hits + service.store.misses = operations.countP Operation.isLookup ∧
      service.store.expired = turnover.swept ∧
      turnover.created =
        service.store.size + service.store.expired + turnover.deleted + turnover.cleared ∧
      ∀ now,
        service.store.IsSwept now (service.sweep now).1 (service.sweep now).2.1.store ∧
          ∀ wheel, if service.sweepsDue wheel now = 0 then
              (service.run wheel now).1.store = service.store ∧
                service.sweptInBackground wheel now = 0
            else service.store.IsSwept now (service.sweptInBackground wheel now)
              (service.run wheel now).1.store := by
  intro service turnover
  obtain ⟨distinct, lookups, swept, size⟩ :
      Accounts (Store.empty : Store α) (operations.countP Operation.isLookup) turnover service.store :=
    (Session.start settings).accounts_run List.nodup_nil operations
  have sweptInAll : service.store.expired = turnover.swept := swept.trans (Nat.zero_add _)
  refine ⟨lookups.trans (Nat.zero_add _), sweptInAll, ?_, fun now => ⟨?_, fun wheel => ?_⟩⟩
  · have sizeInAll : service.store.size + turnover.swept + turnover.deleted + turnover.cleared =
        turnover.created := size.trans (Nat.zero_add _)
    omega
  · exact Store.isSwept_sweep distinct now
  · let owing : Service α := { service with sweepers := (service.sweepers.run wheel now).2 }
    change if service.sweepsDue wheel now = 0 then
        (owing.sweepMany now (service.sweepsDue wheel now)).1.store = service.store ∧
          owing.sweptBy now (service.sweepsDue wheel now) = 0
      else service.store.IsSwept now (owing.sweptBy now (service.sweepsDue wheel now))
        (owing.sweepMany now (service.sweepsDue wheel now)).1.store
    cases service.sweepsDue wheel now with
    | zero => exact ⟨rfl, rfl⟩
    | succ times => exact owing.isSwept_sweepMany distinct now times

/-- To overwrite an expired entry creates no key, and a sweep takes what expires at its very reading. -/
example : (Session.start ⟨⟨5⟩, ⟨60⟩⟩).turnoverOf
    [.set "a" 1 ⟨0⟩, .set "a" 2 ⟨7⟩, .sweep ⟨12⟩, .delete "a"] = ⟨1, 1, 0, 0⟩ := by decide

end Dashboard.Cache
