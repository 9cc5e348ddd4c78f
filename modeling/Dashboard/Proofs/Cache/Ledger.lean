import Dashboard.Proofs.Cache.Lookup
import Mathlib.Data.List.Induction

/-! The cache answers as a ledger would in which nothing is ever dropped: a look-up finds the latest
write of its key that no removal follows, as long as that has not expired. Sweeps may come at any
moment, by hand or from the background, and nobody can tell. -/

namespace Dashboard.Cache

/-- What a cache is used for. A call that wants the value of a key or else its own takes two steps,
because the value is computed outside of the cache: other calls and sweeps may come between them, and
several calls may compute a value for one key. Such calls are numbered. -/
inductive Operation (α : Type) where
  | set (key : String) (value : α) (now : Instant)
  | setFor (key : String) (value : α) (ttl : Duration) (now : Instant)
  | get (key : String) (now : Instant)
  /-- The first step of such a call: a look-up. -/
  | seek (call : Nat) (key : String) (now : Instant)
  /-- The second step, if the first has found nothing: the call stores what it has computed. -/
  | supply (call : Nat) (value : α) (now : Instant)
  | delete (key : String)
  | clear
  | sweep (now : Instant)
  | sweepDue (wheel : Background.Wheel) (now : Instant)
  | spawnSweeper (now : Instant)
  | stopSweeper

namespace Operation

variable {α : Type}

/-- What is read from the clock during an operation. -/
def reading? : Operation α → Option Instant
  | set _ _ now | setFor _ _ _ now | get _ now | seek _ _ now | supply _ _ now => some now
  | sweep now | sweepDue _ now | spawnSweeper now => some now
  | delete _ | clear | stopSweeper => none

/-- The clock does not go backwards from one operation to the next. -/
def Ordered (operations : List (Operation α)) : Prop :=
  (operations.filterMap reading?).Pairwise (· ≤ ·)

instance (operations : List (Operation α)) : Decidable (Ordered operations) :=
  inferInstanceAs (Decidable (List.Pairwise _ _))

def isSweep : Operation α → Bool
  | sweep _ | sweepDue _ _ => true
  | _ => false

end Operation

/-- A cache in use: the keys for which calls are computing values, and the answers that look-ups and
calls have got. -/
structure Session (α : Type) where
  service : Service α
  computing : Nat → Option String
  replies : List (Option α)

namespace Session

variable {α : Type}

def start (settings : Settings) : Session α := ⟨.start settings, fun _ => none, []⟩

/-- Notes what a call is computing a value for, or that it has done so. -/
def turn (session : Session α) (call : Nat) (key? : Option String) : Session α :=
  { session with computing := fun other => if other = call then key? else session.computing other }

def look (session : Session α) (key : String) (now : Instant) : Session α :=
  { session with
    service := (session.service.get key now).2
    replies := session.replies ++ [(session.service.get key now).1] }

/-- A store, and the answer to it, if there is one. Where no expiry can be told the cache stays as it
is, and the call ends without an answer. -/
def write (session : Session α) (service? : Option (Service α)) (answer : Option α) : Session α :=
  match service? with
  | some service =>
    { session with service := service, replies := session.replies ++ (answer.map some).toList }
  | none => session

def step (session : Session α) : Operation α → Session α
  | .set key value now => session.write (session.service.set? key value now) none
  | .setFor key value ttl now => session.write (session.service.setFor? key value ttl now) none
  | .get key now => session.look key now
  | .seek call key now =>
    (session.look key now).turn call
      (if (session.service.get key now).1.isSome then none else some key)
  | .supply call value now =>
    match session.computing call with
    | some key => (session.write (session.service.set? key value now) (some value)).turn call none
    | none => session
  | .delete key => { session with service := session.service.delete key }
  | .clear => { session with service := session.service.clear }
  | .sweep now => { session with service := (session.service.sweep now).2.1 }
  | .sweepDue wheel now => { session with service := (session.service.run wheel now).1 }
  | .spawnSweeper now => { session with service := session.service.spawnSweeper now }
  | .stopSweeper => { session with service := session.service.stopSweeper.1 }

def run (session : Session α) (operations : List (Operation α)) : Session α :=
  operations.foldl step session

end Session

/-- A write of a value with its expiry, or a removal, of one key or of all. -/
structure Change (α : Type) where
  key? : Option String
  content : Option (α × Instant)

def Change.concerns {α : Type} (key : String) (change : Change α) : Bool :=
  change.key?.all (· = key)

/-- All that has been written and removed, and how the calls on it have fared. -/
structure Ledger (α : Type) where
  changes : List (Change α)
  computing : Nat → Option String
  replies : List (Option α)
  hits : Nat
  misses : Nat

namespace Ledger

variable {α : Type}

def start : Ledger α := ⟨[], fun _ => none, [], 0, 0⟩

/-- What the latest change of a key has left of it at an instant. -/
def valueAt (ledger : Ledger α) (key : String) (now : Instant) : Option α :=
  (ledger.changes.filter (Change.concerns key)).getLast?.bind fun change =>
    Store.leftAt change.content now

def enter (ledger : Ledger α) (change : Change α) : Ledger α :=
  { ledger with changes := ledger.changes ++ [change] }

def turn (ledger : Ledger α) (call : Nat) (key? : Option String) : Ledger α :=
  { ledger with computing := fun other => if other = call then key? else ledger.computing other }

def look (ledger : Ledger α) (key : String) (now : Instant) : Ledger α :=
  { ledger with
    replies := ledger.replies ++ [ledger.valueAt key now]
    hits := ledger.hits + if (ledger.valueAt key now).isSome then 1 else 0
    misses := ledger.misses + if (ledger.valueAt key now).isSome then 0 else 1 }

def write (ledger : Ledger α) (key : String) (value : α) (ttl : Duration) (now : Instant)
    (answer : Option α) : Ledger α :=
  match Store.expiry? now ttl with
  | some expiry =>
    { ledger.enter ⟨some key, some (value, expiry)⟩ with
      replies := ledger.replies ++ (answer.map some).toList }
  | none => ledger

/-- What an operation enters, where `standard` is how long values are kept usually. -/
def step (standard : Duration) (ledger : Ledger α) : Operation α → Ledger α
  | .set key value now => ledger.write key value standard now none
  | .setFor key value ttl now => ledger.write key value ttl now none
  | .get key now => ledger.look key now
  | .seek call key now =>
    (ledger.look key now).turn call (if (ledger.valueAt key now).isSome then none else some key)
  | .supply call value now =>
    match ledger.computing call with
    | some key => (ledger.write key value standard now (some value)).turn call none
    | none => ledger
  | .delete key => ledger.enter ⟨some key, none⟩
  | .clear => ledger.enter ⟨none, none⟩
  | .sweep _ | .sweepDue _ _ | .spawnSweeper _ | .stopSweeper => ledger

def run (standard : Duration) (ledger : Ledger α) (operations : List (Operation α)) : Ledger α :=
  operations.foldl (step standard) ledger

theorem valueAt_enter (ledger : Ledger α) (change : Change α) (key : String) (now : Instant) :
    (ledger.enter change).valueAt key now =
      if change.concerns key then Store.leftAt change.content now else ledger.valueAt key now := by
  by_cases concerned : change.concerns key = true
  · simp [valueAt, enter, List.filter_append, concerned]
  · simp [valueAt, enter, List.filter_append, concerned]

theorem step_of_isSweep (standard : Duration) (ledger : Ledger α) {operation : Operation α}
    (sweeps : operation.isSweep = true) : ledger.step standard operation = ledger := by
  cases operation with
  | sweep now | sweepDue wheel now => rfl
  | set | setFor | get | seek | supply | delete | clear | spawnSweeper | stopSweeper => cases sweeps

theorem run_unswept (standard : Duration) (ledger : Ledger α) (operations : List (Operation α)) :
    ledger.run standard (operations.filter (!·.isSweep)) = ledger.run standard operations := by
  induction operations generalizing ledger with
  | nil => rfl
  | cons operation rest inductionHypothesis =>
    by_cases sweeps : operation.isSweep = true
    · rw [List.filter_cons_of_neg (by simp [sweeps]), inductionHypothesis, run, run,
        List.foldl_cons, step_of_isSweep standard ledger sweeps]
    · rw [List.filter_cons_of_pos (by simp [sweeps])]
      exact inductionHypothesis (ledger.step standard operation)

end Ledger

namespace Store

variable {α : Type}

theorem get_counts (store : Store α) (key : String) (now : Instant) :
    (store.get key now).2.hits = store.hits + (if (store.valueAt key now).isSome then 1 else 0) ∧
      (store.get key now).2.misses =
        store.misses + if (store.valueAt key now).isSome then 0 else 1 := by
  cases found : store.find? key with
  | none => simp [get, valueAt, found]
  | some entry =>
    by_cases expired : entry.isExpired now = true
    · simp [get, valueAt, found, expired, Option.filter]
    · simp [get, valueAt, found, expired, Option.filter]

theorem valueAt_clear (store : Store α) (key : String) (now : Instant) :
    store.clear.valueAt key now = none := by
  simp [valueAt, find?, clear]

end Store

namespace Service

variable {α : Type}

theorem sweepMany_counts (service : Service α) (now : Instant) (times : Nat) :
    (service.sweepMany now times).1.store.hits = service.store.hits ∧
      (service.sweepMany now times).1.store.misses = service.store.misses := by
  induction times with
  | zero => exact ⟨rfl, rfl⟩
  | succ times inductionHypothesis => exact inductionHypothesis

theorem setFor?_spec (service : Service α) (key : String) (value : α) (ttl : Duration)
    (now : Instant) :
    match Store.expiry? now ttl with
    | some expiry => ∃ after, service.setFor? key value ttl now = some after ∧
        after.settings = service.settings ∧
        after.store.entries = Association.put key ⟨value, expiry⟩ service.store.entries ∧
        after.store.hits = service.store.hits ∧ after.store.misses = service.store.misses
    | none => service.setFor? key value ttl now = none := by
  cases expires : Store.expiry? now ttl with
  | none => exact setFor?_eq_none.mpr expires
  | some expiry =>
    have stored : service.setFor? key value ttl now = some { service with store := {
        service.store with
          entries := Association.put key ⟨value, expiry⟩ service.store.entries } } := by
      simp [setFor?, Store.set?, expires]
    exact ⟨_, stored, rfl, rfl, rfl, rfl⟩

/-- A call for the value of a key or else its own looks the key up, and stores where that finds
nothing. -/
theorem getOrSet?_eq (service : Service α) (key : String) (value : α) (now : Instant) :
    service.getOrSet? key value now =
      match (service.get key now).1 with
      | some found => some ((found, false), (service.get key now).2)
      | none => ((service.get key now).2.set? key value now).map fun after =>
          ((value, true), after) := by
  obtain ⟨settings, store, sweepers⟩ := service
  simp only [getOrSet?, Store.getOrSet?, get, set?, setFor?]
  split
  · rename_i found looked
    simp only [looked, Option.map_some]
  · rename_i looked
    simp only [looked, Option.map_map, Function.comp_def]

end Service

/-- How a cache in use and its ledger belong together after the given readings of the clock. -/
structure Refines {α : Type} (standard : Duration) (readings : List Instant) (session : Session α)
    (ledger : Ledger α) : Prop where
  standard : session.service.settings.defaultTtl = standard
  distinct : Association.Distinct session.service.store.entries
  values : ∀ key now, (∀ reading ∈ readings, reading ≤ now) →
    session.service.store.valueAt key now = ledger.valueAt key now
  computing : session.computing = ledger.computing
  replies : session.replies = ledger.replies
  hits : session.service.store.hits = ledger.hits
  misses : session.service.store.misses = ledger.misses

namespace Refines

variable {α : Type} {standard : Duration} {readings : List Instant} {session : Session α}
  {ledger : Ledger α}

theorem start (settings : Settings) :
    Refines settings.defaultTtl [] (Session.start settings) (Ledger.start : Ledger α) where
  standard := rfl
  distinct := List.nodup_nil
  values _ _ _ := rfl
  computing := rfl
  replies := rfl
  hits := rfl
  misses := rfl

theorem found (refines : Refines standard readings session ledger) (key : String) {now : Instant}
    (late : ∀ reading ∈ readings, reading ≤ now) :
    (session.service.get key now).1 = ledger.valueAt key now :=
  (session.service.store.get_fst key now).trans (refines.values key now late)

theorem more (refines : Refines standard readings session ledger) (reading? : Option Instant) :
    Refines standard (readings ++ reading?.toList) session ledger where
  standard := refines.standard
  distinct := refines.distinct
  values key now late :=
    refines.values key now fun reading present => late reading (List.mem_append_left _ present)
  computing := refines.computing
  replies := refines.replies
  hits := refines.hits
  misses := refines.misses

theorem turn (refines : Refines standard readings session ledger) (call : Nat)
    (key? : Option String) :
    Refines standard readings (session.turn call key?) (ledger.turn call key?) where
  standard := refines.standard
  distinct := refines.distinct
  values := refines.values
  computing := by simp only [Session.turn, Ledger.turn, refines.computing]
  replies := refines.replies
  hits := refines.hits
  misses := refines.misses

/-- A look-up counts, and changes nothing that a later one finds. -/
theorem look (refines : Refines standard readings session ledger) (key : String) {now : Instant}
    (late : ∀ reading ∈ readings, reading ≤ now) :
    Refines standard readings (session.look key now) (ledger.look key now) := by
  have entries := session.service.store.get_entries key now
  have counts := session.service.store.get_counts key now
  rw [refines.values key now late] at counts
  constructor
  case standard => exact refines.standard
  case distinct =>
    change Association.Distinct (session.service.store.get key now).2.entries
    rw [entries]
    exact refines.distinct
  case values =>
    intro other later after
    exact (Store.valueAt_of_entries entries other later).trans (refines.values other later after)
  case computing => exact refines.computing
  case replies =>
    simp only [Session.look, Ledger.look, refines.replies, refines.found key late]
  case hits => exact counts.1.trans (congrArg (· + _) refines.hits)
  case misses => exact counts.2.trans (congrArg (· + _) refines.misses)

/-- A store, unless there is no expiry for it. -/
theorem write (refines : Refines standard readings session ledger) (key : String) (value : α)
    (ttl : Duration) (now : Instant) (answer : Option α) :
    Refines standard readings
      (session.write (session.service.setFor? key value ttl now) answer)
      (ledger.write key value ttl now answer) := by
  have stored := session.service.setFor?_spec key value ttl now
  cases expires : Store.expiry? now ttl with
  | none =>
    rw [expires] at stored
    simpa only [Ledger.write, expires, stored, Session.write] using refines
  | some expiry =>
    rw [expires] at stored
    obtain ⟨after, stored, settings, entries, hits, misses⟩ := stored
    simp only [Ledger.write, expires, stored, Session.write]
    constructor
    case standard => exact (congrArg Settings.defaultTtl settings).trans refines.standard
    case distinct =>
      change Association.Distinct after.store.entries
      rw [entries]
      exact refines.distinct.put key _
    case values =>
      intro other later late
      have entered := ledger.valueAt_enter ⟨some key, some (value, expiry)⟩ other later
      simp only [Change.concerns, Option.all_some, decide_eq_true_eq] at entered
      refine (Store.valueAt_put entries other later).trans ?_
      rw [refines.values other later late]
      exact entered.symm
    case computing => exact refines.computing
    case replies => simp only [refines.replies]
    case hits => exact hits.trans refines.hits
    case misses => exact misses.trans refines.misses

theorem replace (refines : Refines standard readings session ledger) (service : Service α)
    (next : Ledger α) (settings : service.settings = session.service.settings)
    (distinct : Association.Distinct service.store.entries)
    (values : ∀ key now, (∀ reading ∈ readings, reading ≤ now) →
      service.store.valueAt key now = next.valueAt key now)
    (hits : service.store.hits = session.service.store.hits)
    (misses : service.store.misses = session.service.store.misses)
    (same : next = { ledger with changes := next.changes }) :
    Refines standard readings { session with service := service } next where
  standard := (congrArg Settings.defaultTtl settings).trans refines.standard
  distinct := distinct
  values := values
  computing := by rw [same]; exact refines.computing
  replies := by rw [same]; exact refines.replies
  hits := by rw [same]; exact hits.trans refines.hits
  misses := by rw [same]; exact misses.trans refines.misses

/-- Sweeps at one reading, which drop what no later look-up would find. -/
theorem sweepMany (refines : Refines standard readings session ledger)
    (sweepers : Background.Sweepers) {now : Instant} (present : now ∈ readings) (times : Nat) :
    Refines standard readings { session with
      service := ({ session.service with sweepers := sweepers }.sweepMany now times).1 } ledger := by
  have counts := Service.sweepMany_counts { session.service with sweepers := sweepers } now times
  refine refines.replace _ ledger ?_ ?_ ?_ counts.1 counts.2 rfl
  · exact Service.sweepMany_settings { session.service with sweepers := sweepers } now times
  · exact Service.sweepMany_distinct { session.service with sweepers := sweepers } refines.distinct
      now times
  · intro key later late
    have kept := Service.sweepMany_valueAt { session.service with sweepers := sweepers }
      refines.distinct key (late now present) times
    exact kept.trans (refines.values key later late)

theorem set?_eq (refines : Refines standard readings session ledger) (key : String) (value : α)
    (now : Instant) :
    session.service.set? key value now = session.service.setFor? key value standard now := by
  rw [← refines.standard]
  rfl

/-- One operation, at a reading of the clock that is not before the others. -/
theorem step (refines : Refines standard readings session ledger) (operation : Operation α)
    (order : ∀ now, operation.reading? = some now → ∀ reading ∈ readings, reading ≤ now) :
    Refines standard (readings ++ operation.reading?.toList) (session.step operation)
      (ledger.step standard operation) := by
  cases operation with
  | set key value now =>
    rw [Session.step, refines.set?_eq key value now]
    exact (refines.write key value standard now none).more _
  | setFor key value ttl now => exact (refines.write key value ttl now none).more _
  | get key now => exact (refines.look key (order now rfl)).more _
  | seek call key now =>
    have looked := refines.look key (order now rfl)
    simp only [Session.step, Ledger.step, refines.found key (order now rfl)]
    exact (looked.turn call _).more _
  | supply call value now =>
    simp only [Session.step, Ledger.step, refines.computing]
    cases ledger.computing call with
    | none => exact refines.more _
    | some key =>
      have stored := refines.write key value standard now (some value)
      rw [← refines.set?_eq key value now] at stored
      exact (stored.turn call none).more _
  | delete key =>
    refine (refines.replace (session.service.delete key) (ledger.enter ⟨some key, none⟩) rfl ?_ ?_
      rfl rfl rfl).more none
    · exact refines.distinct.filter _
    · intro other now late
      have entered := ledger.valueAt_enter ⟨some key, none⟩ other now
      simp only [Change.concerns, Option.all_some, decide_eq_true_eq] at entered
      refine (Store.valueAt_delete session.service.store key other now).trans ?_
      rw [refines.values other now late]
      exact entered.symm
  | clear =>
    refine (refines.replace session.service.clear (ledger.enter ⟨none, none⟩) rfl List.nodup_nil ?_
      rfl rfl rfl).more none
    intro other now late
    exact (Store.valueAt_clear session.service.store other now).trans
      (ledger.valueAt_enter ⟨none, none⟩ other now).symm
  | sweep now =>
    exact (refines.more (some now)).sweepMany session.service.sweepers (by simp) 1
  | sweepDue wheel now =>
    obtain ⟨sweepers, times, swept⟩ := session.service.run_eq_sweepMany wheel now
    rw [Session.step, swept]
    exact (refines.more (some now)).sweepMany sweepers (by simp) times
  | spawnSweeper now =>
    exact (refines.replace (session.service.spawnSweeper now) ledger rfl refines.distinct
      refines.values rfl rfl rfl).more _
  | stopSweeper =>
    exact (refines.replace session.service.stopSweeper.1 ledger rfl refines.distinct refines.values
      rfl rfl rfl).more none

theorem run (settings : Settings) (operations : List (Operation α))
    (ordered : Operation.Ordered operations) :
    Refines settings.defaultTtl (operations.filterMap Operation.reading?)
      ((Session.start settings).run operations)
      (Ledger.start.run settings.defaultTtl operations) := by
  -- on the end of the run, because a step needs all the readings before it
  induction operations using List.reverseRecOn with
  | nil => exact start settings
  | append_singleton operations operation inductionHypothesis =>
    rw [Operation.Ordered, List.filterMap_append, List.pairwise_append] at ordered
    obtain ⟨before, -, after⟩ := ordered
    have stepped := (inductionHypothesis before).step operation fun now read reading present =>
      after reading present now (by simp [read])
    have readings : (operations ++ [operation]).filterMap Operation.reading? =
        operations.filterMap Operation.reading? ++ operation.reading?.toList := by
      cases read : operation.reading? <;> simp [List.filterMap_append, read]
    simpa only [readings, Session.run, Ledger.run, List.foldl_append, List.foldl_cons,
      List.foldl_nil] using stepped

end Refines

/-- A cache answers as its ledger does, and counts the same hits and misses; without its sweeps it
would do no different. To a call for the value of a key or else its own, which comes next, it gives the
live value of the ledger, and only where there is none it stores the other for the usual time. -/
theorem replies_eq_ledger {α : Type} (settings : Settings) (operations : List (Operation α))
    (ordered : Operation.Ordered operations) :
    let session := (Session.start settings).run operations
    let unswept := (Session.start settings).run (operations.filter (!·.isSweep))
    let ledger := Ledger.start.run settings.defaultTtl operations
    (session.replies = ledger.replies ∧ session.service.store.hits = ledger.hits ∧
        session.service.store.misses = ledger.misses) ∧
      (unswept.replies = session.replies ∧
        unswept.service.store.hits = session.service.store.hits ∧
        unswept.service.store.misses = session.service.store.misses) ∧
      ∀ key value now, (∀ reading ∈ operations.filterMap Operation.reading?, reading ≤ now) →
        session.service.getOrSet? key value now =
          match ledger.valueAt key now with
          | some found => some ((found, false), (session.service.get key now).2)
          | none => ((session.service.get key now).2.set? key value now).map fun after =>
              ((value, true), after) := by
  intro session unswept ledger
  have refines : Refines settings.defaultTtl _ session ledger := .run settings operations ordered
  have orderedUnswept : Operation.Ordered (operations.filter (!·.isSweep)) :=
    ordered.sublist (List.filter_sublist.filterMap Operation.reading?)
  have refinesUnswept := Refines.run settings _ orderedUnswept
  -- a ledger does not sweep, so the run without sweeps refines the same one
  rw [Ledger.run_unswept] at refinesUnswept
  refine ⟨⟨refines.replies, refines.hits, refines.misses⟩, ⟨?_, ?_, ?_⟩, ?_⟩
  · exact refinesUnswept.replies.trans refines.replies.symm
  · exact refinesUnswept.hits.trans refines.hits.symm
  · exact refinesUnswept.misses.trans refines.misses.symm
  · intro key value now late
    rw [Service.getOrSet?_eq, refines.found key late]

/-- A value that expires at the very reading of a sweep. The call that is computing another one finds
that another call was faster, and overwrites what that has stored. -/
theorem replies_eq_ledger_expiring :
    let settings : Settings := ⟨⟨10⟩, ⟨60⟩⟩
    let operations : List (Operation Nat) :=
      [.setFor "a" 1 ⟨5⟩ ⟨0⟩, .get "a" ⟨4⟩, .sweep ⟨5⟩, .seek 0 "a" ⟨5⟩, .seek 1 "a" ⟨6⟩,
        .supply 1 2 ⟨6⟩, .get "a" ⟨7⟩, .supply 0 3 ⟨8⟩, .sweep ⟨16⟩, .get "a" ⟨17⟩, .clear,
        .get "a" ⟨17⟩]
    Operation.Ordered operations ∧
      ((Session.start settings).run operations).replies =
        [some 1, none, none, some 2, some 2, some 3, some 3, none] ∧
      ((Session.start settings).run (operations.filter (!·.isSweep))).replies =
        [some 1, none, none, some 2, some 2, some 3, some 3, none] := by
  intro settings operations
  have ordered : Operation.Ordered operations := by decide +kernel
  obtain ⟨⟨replies, -⟩, ⟨unswept, -⟩, -⟩ := replies_eq_ledger settings operations ordered
  refine ⟨ordered, replies.trans ?_, unswept.trans (replies.trans ?_)⟩
  · rfl
  · rfl

end Dashboard.Cache
