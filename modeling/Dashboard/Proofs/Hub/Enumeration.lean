import Dashboard.Proofs.Hub.Counting
import Mathlib.Data.List.Perm.Basic

/-! The order in which live subscriptions are enumerated does not matter to an event. It is offered to
one after another, and those that could not take it are removed one after another; whichever order both
are done in, the same subscriptions stay live, the same events are queued and the same is counted. -/

namespace Dashboard.Hub.Loop

/-- How far the offers of an event have come: what the loop looks like, how many subscriptions have taken
the event, and those that could not, in the order in which they were met. -/
structure Round where
  loop : Loop
  delivered : Nat
  refused : List (Id × Mailbox.Outcome)

/-- Offers an event to the next subscription. -/
def offerNext (event : Event) (round : Round) (id : Id) : Round where
  loop := round.loop.alter id fun mailbox => (mailbox.offer round.loop.capacity event).2
  delivered := round.delivered + if round.loop.outcome event id = .accepted then 1 else 0
  refused := round.refused ++
    if round.loop.outcome event id = .accepted then [] else [(id, round.loop.outcome event id)]

/-- Removes the next of the subscriptions that could not take an event, unless it is gone. -/
def dropNext (event : Event) (progress : Loop × List Log.Record) (entry : Id × Mailbox.Outcome) :
    Loop × List Log.Record :=
  if entry.1 ∈ progress.1.live then
    let (loop, records) := progress.1.drop event entry.1 entry.2
    (loop, progress.2 ++ records)
  else progress

/-- Delivers an event to live subscriptions in the order in which they are enumerated. -/
def deliverIn (loop : Loop) (order : List Id) (event : Event) : Loop × List Log.Record :=
  if order.isEmpty then (loop, [])
  else
    let round := order.foldl (offerNext event) ⟨loop, 0, []⟩
    let counted := { round.loop with counters := round.loop.counters.deliver round.delivered }
    if round.refused.isEmpty then (counted, [])
    else round.refused.foldl (dropNext event) (counted, [])

/-- How many of the subscriptions take an event that they are offered. -/
def acceptances (loop : Loop) (event : Event) (order : List Id) : Nat :=
  order.countP fun id => loop.outcome event id = .accepted

/-- Subscriptions with what became of the event that they were offered, those apart that took it. -/
def refusals (loop : Loop) (event : Event) (order : List Id) : List (Id × Mailbox.Outcome) :=
  (order.map fun id => (id, loop.outcome event id)).filter fun entry => entry.2 ≠ .accepted

/-- The mailboxes after an event was offered to some subscriptions. -/
def offered (loop : Loop) (event : Event) (order : List Id) : List (Id × Mailbox) :=
  loop.mailboxes.map fun entry =>
    if entry.1 ∈ order then (entry.1, (entry.2.offer loop.capacity event).2) else entry

theorem outcome_alter_of_ne (loop : Loop) (event : Event) {id other : Id} (different : other ≠ id)
    (update : Mailbox → Mailbox) :
    (loop.alter id update).outcome event other = loop.outcome event other := by
  simp only [outcome, mailbox?_alter, if_neg different]
  rfl

/-- An offer to one subscription leaves those to others as they are. -/
theorem refusals_alter (loop : Loop) (event : Event) {id : Id} {others : List Id} (absent : id ∉ others)
    (update : Mailbox → Mailbox) :
    (loop.alter id update).refusals event others = loop.refusals event others := by
  have same : (others.map fun other => (other, (loop.alter id update).outcome event other)) =
      others.map fun other => (other, loop.outcome event other) :=
    List.map_congr_left fun other present => by
      rw [loop.outcome_alter_of_ne event (ne_of_mem_of_not_mem present absent)]
  rw [refusals, same, refusals]

theorem acceptances_alter (loop : Loop) (event : Event) {id : Id} {others : List Id}
    (absent : id ∉ others) (update : Mailbox → Mailbox) :
    (loop.alter id update).acceptances event others = loop.acceptances event others :=
  List.countP_congr fun other present => by
    rw [loop.outcome_alter_of_ne event (ne_of_mem_of_not_mem present absent)]

theorem offered_cons (loop : Loop) (event : Event) {id : Id} {others : List Id} (absent : id ∉ others) :
    loop.offered event (id :: others) =
      (loop.alter id fun mailbox => (mailbox.offer loop.capacity event).2).offered event others := by
  simp only [offered, alter, change, List.map_map]
  refine List.map_congr_left fun entry _ => ?_
  by_cases same : entry.1 = id
  · simp [same, absent]
  · simp [same]

/-- An offer looks at one mailbox only, so it comes out as if it were the first one. -/
theorem foldl_offerNext (event : Event) {order : List Id} (once : order.Nodup) (round : Round) :
    order.foldl (offerNext event) round =
      ⟨{ round.loop with mailboxes := round.loop.offered event order },
        round.delivered + round.loop.acceptances event order,
        round.refused ++ round.loop.refusals event order⟩ := by
  induction order generalizing round with
  | nil => simp [offered, acceptances, refusals]
  | cons id rest inductionHypothesis =>
    obtain ⟨absent, onceRest⟩ := List.nodup_cons.mp once
    rw [List.foldl_cons, inductionHypothesis onceRest, offered_cons _ event absent]
    simp only [offerNext, refusals_alter _ event absent, acceptances_alter _ event absent]
    by_cases accepted : round.loop.outcome event id = .accepted
    · simp [accepted, acceptances, refusals, alter, Nat.add_assoc, Nat.add_comm 1]
    · simp [accepted, acceptances, refusals, alter]

/-- What is logged of a removal. It does not depend on the loop. -/
def dropRecords (event : Event) (entry : Id × Mailbox.Outcome) : List Log.Record :=
  ((Loop.start 0).drop event entry.1 entry.2).2

theorem drop_records (loop : Loop) (event : Event) (entry : Id × Mailbox.Outcome) :
    (loop.drop event entry.1 entry.2).2 = dropRecords event entry := by
  obtain ⟨id, outcome⟩ := entry
  cases outcome <;> rfl

/-- Only what is found live is removed, so it does no harm to ask for each subscription that is there
once. -/
theorem foldl_dropNext (event : Event) {entries : List (Id × Mailbox.Outcome)}
    (once : (entries.map Prod.fst).Nodup) (progress : Loop × List Log.Record)
    (present : ∀ entry ∈ entries, entry.1 ∈ progress.1.live) :
    entries.foldl (dropNext event) progress =
      ((dropAll event entries progress.1).1, progress.2 ++ (dropAll event entries progress.1).2) := by
  induction entries generalizing progress with
  | nil => simp [dropAll]
  | cons entry rest inductionHypothesis =>
    obtain ⟨absent, onceRest⟩ := List.nodup_cons.mp once
    obtain ⟨here, presentRest⟩ := List.forall_mem_cons.mp present
    rw [List.foldl_cons, dropNext, if_pos here, inductionHypothesis onceRest]
    · simp [dropAll]
    · intro other later
      have different : other.1 ≠ entry.1 := fun same =>
        absent (same ▸ List.mem_map_of_mem later)
      exact IsBalanced.mem_live_drop event different (presentRest other later) entry.2

theorem dropAll_filter (event : Event) (entries : List (Id × Mailbox.Outcome)) (loop : Loop) :
    dropAll event (entries.filter fun entry => entry.2 ≠ .accepted) loop =
      dropAll event entries loop := by
  induction entries generalizing loop with
  | nil => rfl
  | cons entry rest inductionHypothesis =>
    obtain ⟨id, outcome⟩ := entry
    cases outcome with
    | accepted => exact inductionHypothesis loop
    | full | readerGone =>
      simp only [List.filter_cons_of_pos, dropAll, inductionHypothesis, ne_eq, reduceCtorEq,
        not_false_eq_true, decide_true]

theorem dropAll_snd (event : Event) (entries : List (Id × Mailbox.Outcome)) (loop : Loop) :
    (dropAll event entries loop).2 = entries.flatMap (dropRecords event) := by
  induction entries generalizing loop with
  | nil => rfl
  | cons entry rest inductionHypothesis =>
    simp only [dropAll, inductionHypothesis, List.flatMap_cons, loop.drop_records event entry]

theorem dropAll_fst (event : Event) (entries : List (Id × Mailbox.Outcome)) (loop : Loop) :
    (dropAll event entries loop).1 =
      entries.foldl (fun loop entry => (loop.drop event entry.1 entry.2).1) loop := by
  induction entries generalizing loop with
  | nil => rfl
  | cons entry rest inductionHypothesis => exact inductionHypothesis _

theorem change_comm {first second : Id} (different : first ≠ second) (update other : Mailbox → Mailbox)
    (mailboxes : List (Id × Mailbox)) :
    change second other (change first update mailboxes) =
      change first update (change second other mailboxes) := by
  simp only [change, List.map_map]
  refine List.map_congr_left fun entry _ => ?_
  by_cases isFirst : entry.1 = first
  · simp [isFirst, different]
  · by_cases isSecond : entry.1 = second
    · simp [isSecond, different.symm]
    · simp [isFirst, isSecond]

theorem drop_comm (loop : Loop) (event : Event) {first second : Id} (different : first ≠ second)
    (outcome other : Mailbox.Outcome) :
    ((loop.drop event first outcome).1.drop event second other).1 =
      ((loop.drop event second other).1.drop event first outcome).1 := by
  cases outcome with
  | accepted => rfl
  | full | readerGone =>
    cases other with
    | accepted => rfl
    | full | readerGone =>
      simp only [drop, remove, change_comm different, List.filter_filter, Bool.and_comm,
        Counters.evict, Counters.unregister]

/-- The order in which subscriptions are removed shows in the log only. -/
theorem dropAll_perm (event : Event) {entries others : List (Id × Mailbox.Outcome)}
    (same : entries.Perm others) (once : (entries.map Prod.fst).Nodup) (loop : Loop) :
    (dropAll event entries loop).1 = (dropAll event others loop).1 ∧
      (dropAll event entries loop).2.Perm (dropAll event others loop).2 := by
  constructor
  · rw [dropAll_fst, dropAll_fst]
    refine same.foldl_eq' ?_ loop
    intro first isFirst second isSecond current
    by_cases equal : first.1 = second.1
    · rw [List.inj_on_of_nodup_map once isFirst isSecond equal]
    · exact current.drop_comm event equal first.2 second.2
  · rw [dropAll_snd, dropAll_snd]
    exact same.flatMap_right _

theorem refusals_perm (loop : Loop) (event : Event) {order other : List Id} (same : order.Perm other) :
    (loop.refusals event order).Perm (loop.refusals event other) :=
  (same.map _).filter _

theorem refusals_once (loop : Loop) (event : Event) {order : List Id} (once : order.Nodup) :
    ((loop.refusals event order).map Prod.fst).Nodup := by
  refine List.Nodup.sublist (List.filter_sublist.map Prod.fst) ?_
  rw [List.map_map]
  exact (List.map_id order).symm ▸ once

theorem mem_of_mem_refusals {loop : Loop} {event : Event} {order : List Id}
    {entry : Id × Mailbox.Outcome} (refused : entry ∈ loop.refusals event order) : entry.1 ∈ order := by
  obtain ⟨id, present, rfl⟩ := List.mem_map.mp (List.mem_of_mem_filter refused)
  exact present

/-- A delivery, as offers that do not see each other and the removals that they make necessary. -/
theorem deliverIn_eq (loop : Loop) (event : Event) {order : List Id} (once : order.Nodup)
    (present : ∀ id ∈ order, id ∈ loop.live) :
    loop.deliverIn order event =
      dropAll event (loop.refusals event order)
        { loop with
          mailboxes := loop.offered event order
          counters := loop.counters.deliver (loop.acceptances event order) } := by
  rw [deliverIn]
  split
  case isTrue noneLive =>
    rw [List.isEmpty_iff.mp noneLive]
    simp [refusals, dropAll, offered, acceptances, Counters.deliver]
  case isFalse someLive =>
    simp only [foldl_offerNext event once, List.nil_append, Nat.zero_add]
    split
    case isTrue noneRefused => rw [List.isEmpty_iff.mp noneRefused, dropAll]
    case isFalse =>
      rw [foldl_dropNext event (loop.refusals_once event once)]
      · rfl
      · exact fun entry refused => present entry.1 (mem_of_mem_refusals refused)

/-- In the order in which the loop keeps the live subscriptions, this is what it does. -/
theorem deliverIn_live {loop : Loop} (once : loop.live.Nodup) (event : Event) :
    loop.deliverIn loop.live event = loop.deliver event := by
  have counted : ((loop.live.map fun id => (id, loop.outcome event id)).filter
      fun entry => entry.2 = .accepted).length = loop.acceptances event loop.live := by
    rw [← List.countP_eq_length_filter, List.countP_map]
    rfl
  rw [deliverIn_eq loop event once fun _ present => present, refusals, dropAll_filter]
  simp only [deliver, counted]
  rfl

/-- However the live subscriptions are enumerated, the loop is the same after a delivery, with its live
subscriptions, all queues and states, and the counters; the log has the same lines. The order of
registration is one of those enumerations. -/
theorem deliverIn_perm {loop : Loop} (once : loop.live.Nodup) (event : Event) {first second : List Id}
    (isFirst : first.Perm loop.live) (isSecond : second.Perm loop.live) :
    (loop.deliverIn first event).1 = (loop.deliverIn second event).1 ∧
      (loop.deliverIn first event).2.Perm (loop.deliverIn second event).2 ∧
      loop.deliverIn loop.live event = loop.deliver event := by
  have same : first.Perm second := isFirst.trans isSecond.symm
  have onceFirst : first.Nodup := isFirst.nodup_iff.mpr once
  have offered : loop.offered event first = loop.offered event second := by
    simp only [Loop.offered, same.mem_iff]
  have accepted : loop.acceptances event first = loop.acceptances event second :=
    same.countP_eq _
  obtain ⟨loops, records⟩ := dropAll_perm event (loop.refusals_perm event same)
    (loop.refusals_once event onceFirst) { loop with
      mailboxes := loop.offered event second
      counters := loop.counters.deliver (loop.acceptances event second) }
  rw [deliverIn_eq loop event onceFirst fun _ => isFirst.mem_iff.mp,
    deliverIn_eq loop event (isSecond.nodup_iff.mpr once) fun _ => isSecond.mem_iff.mp, offered,
    accepted]
  exact ⟨loops, records, deliverIn_live once event⟩

/-- One queue is full, one reader has gone and one takes the event. The log tells in which order they
were met, and nothing else does. -/
theorem deliverIn_perm_full_and_gone :
    let event : Event := ⟨.update .null, none, 0⟩
    let loop := (Loop.start 1).run
      [.create 1, .handle (.register 1), .create 2, .handle (.register 2), .create 3,
        .handle (.register 3), .handle (.publish event), .receive 3, .detach 2]
    (loop.live.Nodup ∧ [1, 2, 3].Perm loop.live ∧ [3, 2, 1].Perm loop.live) ∧
      (loop.deliverIn [1, 2, 3] event).1 = (loop.deliverIn [3, 2, 1] event).1 ∧
      (loop.deliverIn [1, 2, 3] event).1.live = [3] ∧
      (loop.deliverIn [1, 2, 3] event).1.counters = ⟨3, 1, 1, 4, 1, 1⟩ ∧
      (loop.deliverIn [1, 2, 3] event).2.map (·.message) =
        ["Subscriber 1 evicted (queue full on 'update')", "Subscriber 2 went away"] ∧
      (loop.deliverIn [3, 2, 1] event).2.map (·.message) =
        ["Subscriber 2 went away", "Subscriber 1 evicted (queue full on 'update')"] := by
  intro event loop
  have once : loop.live.Nodup := by decide
  have forwards : [1, 2, 3].Perm loop.live := by decide
  have backwards : [3, 2, 1].Perm loop.live := by decide
  obtain ⟨same, -⟩ := deliverIn_perm once event forwards backwards
  refine ⟨⟨once, forwards, backwards⟩, same, ?_, ?_, ?_, ?_⟩
  · decide
  · decide
  · decide +kernel
  · decide +kernel

end Dashboard.Hub.Loop
