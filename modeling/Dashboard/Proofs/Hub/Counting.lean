import Dashboard.Proofs.Hub.Arrival
import Dashboard.Proofs.Hub.Lifecycle
import Mathlib.Algebra.BigOperators.Group.List.Basic
import Mathlib.Algebra.Order.Ring.Nat

/-! What the counters of the hub say. A subscription leaves the live ones in five places, each of which
counts it, and the counts add up under every interleaving: who was registered is live, was evicted or
was unregistered, and every event that has reached a queue was counted once. -/

namespace Dashboard.Hub

namespace Loop

variable {loop : Loop}

/-- How many subscriptions are in a state. -/
def count (loop : Loop) (state : State) : Nat := loop.mailboxes.countP (·.2.state = state)

/-- A change of one subscription leaves those before and behind it as they are. -/
theorem change_of_lookup {mailboxes : List (Id × Mailbox)} (distinct : Association.Distinct mailboxes)
    {id : Id} {mailbox : Mailbox} (found : mailboxes.lookup id = some mailbox)
    (update : Mailbox → Mailbox) :
    ∃ front back, mailboxes = front ++ (id, mailbox) :: back ∧
      change id update mailboxes = front ++ (id, update mailbox) :: back := by
  induction mailboxes with
  | nil => cases found
  | cons entry rest inductionHypothesis =>
    obtain ⟨absent, distinctRest⟩ := List.nodup_cons.mp distinct
    rw [Association.lookup_cons] at found
    by_cases same : id = entry.1
    · subst same
      obtain rfl : entry.2 = mailbox := by simpa using found
      have others : change entry.1 update rest = rest := by
        refine (List.map_congr_left fun other present => ?_).trans (List.map_id rest)
        have different : other.1 ≠ entry.1 := fun same =>
          absent (List.mem_map.mpr ⟨other, present, same⟩)
        simp [different]
      refine ⟨[], rest, rfl, ?_⟩
      rw [change] at others ⊢
      simp [others]
    · rw [if_neg same] at found
      obtain ⟨front, back, split, changed⟩ := inductionHypothesis distinctRest found
      refine ⟨entry :: front, back, by rw [split]; rfl, ?_⟩
      rw [change] at changed ⊢
      simp [changed, Ne.symm same]

/-- A subscription that goes over into another state is counted there and no longer where it was. -/
theorem countP_change {mailboxes : List (Id × Mailbox)} (distinct : Association.Distinct mailboxes)
    {id : Id} {mailbox : Mailbox} (found : mailboxes.lookup id = some mailbox) (state other : State) :
    (change id (Mailbox.setState state) mailboxes).countP (·.2.state = other) +
        (if mailbox.state = other then 1 else 0) =
      mailboxes.countP (·.2.state = other) + if state = other then 1 else 0 := by
  obtain ⟨front, back, split, changed⟩ := change_of_lookup distinct found (Mailbox.setState state)
  have moved : (mailbox.setState state).state = state := rfl
  rw [changed, split]
  simp only [List.countP_append, List.countP_cons, decide_eq_true_eq, moved]
  omega

/-- What the counters say about subscriptions is so. -/
structure IsBalanced (loop : Loop) : Prop where
  tidy : loop.IsTidy
  live : ∀ id ∈ loop.live, ∃ mailbox, loop.mailbox? id = some mailbox ∧ mailbox.state = .active
  active : loop.counters.active = loop.live.length
  registrations : loop.counters.registrations =
    loop.counters.active + loop.counters.evictions + loop.counters.unregistrations
  evictions : loop.counters.evictions = loop.count .evicted
  unregistrations : loop.counters.unregistrations = loop.count .unregistered

namespace IsBalanced

theorem start (buffer : Nat) : IsBalanced (Loop.start buffer) where
  tidy := .start buffer
  live _ present := by cases present
  active := rfl
  registrations := rfl
  evictions := rfl
  unregistrations := rfl

theorem length_remove (balanced : IsBalanced loop) {id : Id} (present : id ∈ loop.live)
    (state : State) : (loop.remove id state).live.length + 1 = loop.live.length := by
  have others : loop.live.filter (· ≠ id) = loop.live.erase id := by
    rw [balanced.tidy.live.erase_eq_filter]
    exact List.filter_congr fun other _ => by simp [bne, beq_eq_decide]
  have shorter := List.length_erase_add_one present
  rw [← others] at shorter
  exact shorter

theorem count_remove (balanced : IsBalanced loop) {id : Id} (present : id ∈ loop.live)
    (state other : State) :
    (loop.remove id state).count other + (if State.active = other then 1 else 0) =
      loop.count other + if state = other then 1 else 0 := by
  obtain ⟨mailbox, found, active⟩ := balanced.live id present
  have moved := countP_change balanced.tidy.made found state other
  rwa [active] at moved

theorem live_remove (balanced : IsBalanced loop) (id : Id) (state : State) :
    ∀ other ∈ (loop.remove id state).live,
      ∃ mailbox, (loop.remove id state).mailbox? other = some mailbox ∧ mailbox.state = .active := by
  intro other present
  obtain ⟨present, different⟩ := List.mem_filter.mp present
  rw [mailbox?_remove, if_neg (by simpa using different)]
  exact balanced.live other present

/-- The removal of a live subscription is counted once, for the reason it has. -/
theorem remove (balanced : IsBalanced loop) {id : Id} (present : id ∈ loop.live) {state : State}
    {counters : Counters} (reason : state = .evicted ∨ state = .unregistered)
    (active : counters.active = loop.counters.active - 1)
    (registrations : counters.registrations = loop.counters.registrations)
    (evictions : counters.evictions = loop.counters.evictions + if state = .evicted then 1 else 0)
    (unregistrations : counters.unregistrations =
      loop.counters.unregistrations + if state = .unregistered then 1 else 0) :
    IsBalanced { loop.remove id state with counters := counters } := by
  have shorter := balanced.length_remove present state
  have evicted := balanced.count_remove present state .evicted
  have unregistered := balanced.count_remove present state .unregistered
  have narrows := Narrows.remove loop id state
  have once : (if state = .evicted then 1 else 0) + (if state = .unregistered then 1 else 0) = 1 := by
    rcases reason with rfl | rfl
    · rfl
    · rfl
  simp only [reduceCtorEq, if_false, Nat.add_zero] at evicted unregistered
  constructor
  case tidy => exact balanced.tidy.narrow ⟨narrows.live, narrows.made⟩
  case live => exact balanced.live_remove id state
  case active =>
    have total := balanced.active
    simp only [active]
    omega
  case registrations =>
    have total := balanced.active
    have balance := balanced.registrations
    simp only [active, registrations, evictions, unregistrations]
    omega
  case evictions =>
    rw [evictions, balanced.evictions]
    exact evicted.symm
  case unregistrations =>
    rw [unregistrations, balanced.unregistrations]
    exact unregistered.symm

theorem removeUnregistered (balanced : IsBalanced loop) {id : Id} (present : id ∈ loop.live) :
    IsBalanced { loop.remove id .unregistered with counters := loop.counters.unregister } :=
  balanced.remove present (Or.inr rfl) rfl rfl rfl rfl

theorem removeEvicted (balanced : IsBalanced loop) {id : Id} (present : id ∈ loop.live) :
    IsBalanced { loop.remove id .evicted with counters := loop.counters.evict } :=
  balanced.remove present (Or.inl rfl) rfl rfl rfl rfl

theorem drop (balanced : IsBalanced loop) (event : Event) {id : Id} (present : id ∈ loop.live)
    (outcome : Mailbox.Outcome) : IsBalanced (loop.drop event id outcome).1 := by
  cases outcome with
  | accepted => exact balanced
  | full => exact balanced.removeEvicted present
  | readerGone => exact balanced.removeUnregistered present

theorem mem_live_drop (event : Event) {id other : Id} (different : other ≠ id)
    (present : other ∈ loop.live) (outcome : Mailbox.Outcome) :
    other ∈ (loop.drop event id outcome).1.live := by
  cases outcome with
  | accepted => exact present
  | full | readerGone => exact List.mem_filter.mpr ⟨present, by simpa using different⟩

/-- Those that could not take an event are removed one after another, each while it is live. -/
theorem dropAll (balanced : IsBalanced loop) (event : Event) (verdict : Id → Mailbox.Outcome)
    {ids : List Id} (once : ids.Nodup) (present : ∀ id ∈ ids, id ∈ loop.live) :
    IsBalanced (Loop.dropAll event (ids.map fun id => (id, verdict id)) loop).1 := by
  induction ids generalizing loop with
  | nil => exact balanced
  | cons id rest inductionHypothesis =>
    obtain ⟨absent, onceRest⟩ := List.nodup_cons.mp once
    obtain ⟨here, presentRest⟩ := List.forall_mem_cons.mp present
    refine inductionHypothesis (balanced.drop event here (verdict id)) onceRest ?_
    intro other later
    have different : other ≠ id := fun same => absent (same ▸ later)
    exact mem_live_drop event different (presentRest other later) (verdict id)

theorem count_offerAll (loop : Loop) (event : Event) (state : State) :
    (loop.offerAll event).countP (·.2.state = state) = loop.count state := by
  have offered (mailbox : Mailbox) : (mailbox.offer loop.capacity event).2.state = mailbox.state := by
    rw [Mailbox.offer]
    split
    · rfl
    · split <;> rfl
  rw [offerAll, List.countP_map, count]
  refine List.countP_congr fun entry _ => ?_
  rw [Function.comp_apply]
  split
  · rw [offered]
  · rfl

theorem publish (balanced : IsBalanced loop) (event : Event) :
    IsBalanced (loop.publish event).1 := by
  have offered : IsBalanced { loop with
      mailboxes := loop.offerAll event
      counters := loop.counters.publish.deliver
        ((loop.live.map fun id => (id, loop.outcome event id)).filter
          fun entry => entry.2 = .accepted).length } := ?offered
  · exact offered.dropAll event (loop.outcome event) balanced.tidy.live fun _ present => present
  refine ⟨⟨balanced.tidy.live, ?_⟩, ?_, balanced.active, balanced.registrations, ?_, ?_⟩
  · change ((loop.offerAll event).map Prod.fst).Nodup
    rw [ids_offerAll]
    exact balanced.tidy.made
  · intro id present
    obtain ⟨mailbox, found, active⟩ := balanced.live id present
    have offered := loop.lookup_offerAll event id
    rw [found, Option.map_some, if_pos present] at offered
    refine ⟨_, offered, ?_⟩
    rw [Mailbox.offer]
    split
    · exact active
    · split <;> exact active
  · exact balanced.evictions.trans (count_offerAll loop event .evicted).symm
  · exact balanced.unregistrations.trans (count_offerAll loop event .unregistered).symm

theorem stop (balanced : IsBalanced loop) : IsBalanced loop.stop.1 := by
  have removed {loop : Loop} (balanced : IsBalanced loop) {ids : List Id} (once : ids.Nodup)
      (present : ∀ id ∈ ids, id ∈ loop.live) : IsBalanced (ids.foldl (fun loop id =>
        { loop.remove id .unregistered with counters := loop.counters.unregister }) loop) := by
    induction ids generalizing loop with
    | nil => exact balanced
    | cons id rest inductionHypothesis =>
      obtain ⟨absent, onceRest⟩ := List.nodup_cons.mp once
      obtain ⟨here, presentRest⟩ := List.forall_mem_cons.mp present
      refine inductionHypothesis (balanced.removeUnregistered here) onceRest ?_
      intro other later
      have different : other ≠ id := fun same => absent (same ▸ later)
      exact List.mem_filter.mpr ⟨presentRest other later, by simpa using different⟩
  have closed := removed balanced balanced.tidy.live fun _ present => present
  exact ⟨⟨closed.tidy.live, closed.tidy.made⟩, closed.live, closed.active, closed.registrations,
    closed.evictions, closed.unregistrations⟩

/-- A subscription that is registered was not live before. -/
theorem register (balanced : IsBalanced loop) {id : Id} (fresh : loop.isFresh id = true) :
    IsBalanced (loop.register id).1 := by
  obtain ⟨mailbox, found, registered⟩ : ∃ mailbox, loop.mailbox? id = some mailbox ∧
      mailbox.state = .registered := by
    simpa [isFresh, Option.any_eq_true] using fresh
  have absent : id ∉ loop.live := by
    intro present
    obtain ⟨other, same, active⟩ := balanced.live id present
    obtain rfl := Option.some.inj (found.symm.trans same)
    cases registered.symm.trans active
  have others : loop.live.filter (· ≠ id) = loop.live := by
    refine List.filter_eq_self.mpr fun other present => ?_
    simpa using fun same : other = id => absent (same ▸ present)
  have moved (other : State) := countP_change balanced.tidy.made found .active other
  rw [registered] at moved
  have evicted := moved .evicted
  have unregistered := moved .unregistered
  have active := balanced.active
  have registrations := balanced.registrations
  simp only [reduceCtorEq, if_false, Nat.add_zero] at evicted unregistered
  refine ⟨balanced.tidy.register id, ?_, ?_, ?_, ?_, ?_⟩
  · intro other present
    rw [mailbox?, Loop.register, lookup_change]
    by_cases same : other = id
    · rw [if_pos same, same, show loop.mailboxes.lookup id = some mailbox from found]
      exact ⟨_, rfl, rfl⟩
    · rw [if_neg same]
      refine balanced.live other ?_
      simpa [Loop.register, same] using present
  · simp only [Loop.register, Counters.register, others, List.length_append, List.length_singleton]
    omega
  · simp only [Loop.register, Counters.register]
    omega
  · exact balanced.evictions.trans evicted.symm
  · exact balanced.unregistrations.trans unregistered.symm

theorem create (balanced : IsBalanced loop) {id : Id} (absent : loop.mailbox? id = none) :
    IsBalanced (loop.create id) := by
  have counted (state : State) (other : state ≠ .registered) :
      (loop.create id).count state = loop.count state := by
    simp [count, Loop.create, Mailbox.new, other.symm]
  refine ⟨balanced.tidy.create absent, ?_, balanced.active, balanced.registrations, ?_, ?_⟩
  · intro other present
    rw [loop.mailbox?_create id other absent]
    obtain ⟨mailbox, found, active⟩ := balanced.live other present
    split
    · rename_i same
      subst same
      cases absent.symm.trans found
    · exact ⟨mailbox, found, active⟩
  · exact balanced.evictions.trans (counted .evicted (by simp)).symm
  · exact balanced.unregistrations.trans (counted .unregistered (by simp)).symm

/-- A reader changes what is queued, and no state. -/
theorem alter (balanced : IsBalanced loop) (id : Id) {update : Mailbox → Mailbox}
    (keeps : ∀ mailbox, (update mailbox).state = mailbox.state) :
    IsBalanced (loop.alter id update) := by
  have counted (state : State) : (loop.alter id update).count state = loop.count state := by
    rw [count, Loop.alter, change, List.countP_map, count]
    refine List.countP_congr fun entry _ => ?_
    rw [Function.comp_apply]
    split
    · rw [keeps]
    · rfl
  refine ⟨balanced.tidy.narrow (.alter loop id update), ?_, balanced.active, balanced.registrations,
    ?_, ?_⟩
  · intro other present
    obtain ⟨mailbox, found, active⟩ := balanced.live other present
    rw [mailbox?_alter, found]
    split
    · exact ⟨_, rfl, (keeps mailbox).trans active⟩
    · exact ⟨_, rfl, active⟩
  · exact balanced.evictions.trans (counted .evicted).symm
  · exact balanced.unregistrations.trans (counted .unregistered).symm

theorem handle (balanced : IsBalanced loop) {command : Command}
    (admitted : loop.admits command = true) : IsBalanced (loop.handle command).1 := by
  unfold Loop.handle
  split
  · exact balanced
  · cases command with
    | register id => exact balanced.register admitted
    | publish event => exact balanced.publish event
    | stop => exact balanced.stop
    | unregister id =>
      change IsBalanced (loop.unregister id).1
      rw [Loop.unregister]
      split
      · rename_i present
        exact balanced.removeUnregistered present
      · exact balanced

theorem step (balanced : IsBalanced loop) (action : Action) : IsBalanced (loop.step action) := by
  cases action with
  | create id =>
    rw [Loop.step]
    split
    · exact balanced
    · rename_i absent
      exact balanced.create (by simpa using absent)
  | handle command =>
    rw [Loop.step]
    split
    · rename_i admitted
      exact balanced.handle admitted
    · exact balanced
  | receive id => exact balanced.alter id fun mailbox => mailbox.take_spec.2.1
  | detach id => exact balanced.alter id fun _ => rfl

theorem run (balanced : IsBalanced loop) (actions : List Action) : IsBalanced (loop.run actions) := by
  induction actions generalizing loop with
  | nil => exact balanced
  | cons action rest inductionHypothesis => exact inductionHypothesis (balanced.step action)

end IsBalanced

/-- How many events were published, and how often one was put into a queue. -/
def traffic (loop : Loop) : Nat × Nat := (loop.counters.published, loop.counters.delivered)

theorem traffic_dropAll (event : Event) (outcomes : List (Id × Mailbox.Outcome)) (loop : Loop) :
    (Loop.dropAll event outcomes loop).1.traffic = loop.traffic := by
  induction outcomes generalizing loop with
  | nil => rfl
  | cons entry rest inductionHypothesis =>
    obtain ⟨id, outcome⟩ := entry
    refine (inductionHypothesis _).trans ?_
    cases outcome <;> rfl

theorem traffic_stop (loop : Loop) : loop.stop.1.traffic = loop.traffic := by
  have removed (ids : List Id) (loop : Loop) : (ids.foldl (fun loop id =>
      { loop.remove id .unregistered with counters := loop.counters.unregister }) loop).traffic =
        loop.traffic := by
    induction ids generalizing loop with
    | nil => rfl
    | cons id rest inductionHypothesis => exact inductionHypothesis _
  exact removed loop.live loop

theorem traffic_unregister (loop : Loop) (id : Id) :
    (loop.unregister id).1.traffic = loop.traffic := by
  rw [unregister]
  split <;> rfl

/-- An event counts once as published, and once for each live subscription that takes it. -/
theorem traffic_publish (loop : Loop) (event : Event) :
    (loop.publish event).1.traffic =
      (loop.counters.published + 1, loop.counters.delivered +
        (loop.live.filter fun id => loop.outcome event id = .accepted).length) := by
  refine (traffic_dropAll event _ _).trans ?_
  have offered : (loop.live.map fun id => (id, loop.outcome event id)).filter
      (fun entry => entry.2 = .accepted) =
        (loop.live.filter fun id => loop.outcome event id = .accepted).map
          fun id => (id, loop.outcome event id) := by
    rw [List.filter_map]
    rfl
  have counted := congrArg List.length offered
  rw [List.length_map] at counted
  exact congrArg (fun count => (loop.counters.published + 1, loop.counters.delivered + count)) counted

theorem sum_length_ite {α β : Type} (list : List α) (select : α → Bool) (item : β) :
    (list.map fun entry => (if select entry then [item] else []).length).sum =
      (list.filter select).length := by
  induction list with
  | nil => rfl
  | cons entry rest inductionHypothesis =>
    by_cases selected : select entry = true
    · simp only [List.map_cons, List.sum_cons, inductionHypothesis, selected, if_true,
        List.filter_cons_of_pos, List.length_cons, List.length_nil]
      omega
    · simp [inductionHypothesis, selected]

/-- Those that take an event are found among the live ones as well as among all. -/
theorem IsBalanced.length_takers (balanced : IsBalanced loop) (event : Event) :
    (loop.live.filter fun id => loop.outcome event id = .accepted).length =
      ((loop.mailboxes.map Prod.fst).filter fun id =>
        id ∈ loop.live && loop.outcome event id = .accepted).length := by
  refine List.Perm.length_eq ((List.perm_ext_iff_of_nodup (balanced.tidy.live.filter _)
    (List.Nodup.filter _ balanced.tidy.made)).mpr fun id => ?_)
  have listed (present : id ∈ loop.live) : id ∈ loop.mailboxes.map Prod.fst := by
    obtain ⟨mailbox, found, -⟩ := balanced.live id present
    by_contra absent
    have missing : loop.mailboxes.lookup id = none := by
      refine List.lookup_eq_none_iff.mpr fun entry listed => bne_iff_ne.mpr fun same => ?_
      exact absent (List.mem_map.mpr ⟨entry, listed, same.symm⟩)
    cases missing.symm.trans found
  simp only [List.mem_filter, Bool.and_eq_true, decide_eq_true_eq]
  constructor
  · rintro ⟨present, accepted⟩
    exact ⟨listed present, present, accepted⟩
  · rintro ⟨-, present, accepted⟩
    exact ⟨present, accepted⟩

/-- What has arrived in all queues together. -/
def arrivedInAll (loop : Loop) (action : Action) : Nat :=
  (loop.mailboxes.map fun entry => (arrived loop (loop.step action) entry.1).length).sum

theorem IsBalanced.arrivedInAll_publish (balanced : IsBalanced loop) (running : ¬loop.hasEnded = true)
    (event : Event) :
    loop.arrivedInAll (.handle (.publish event)) =
      (loop.live.filter fun id => loop.outcome event id = .accepted).length := by
  rw [balanced.length_takers, ← sum_length_ite _ _ event, arrivedInAll, List.map_map]
  refine congrArg List.sum (List.map_congr_left fun entry _ => ?_)
  rw [arrived_step]
  have seen : (loop.view entry.1).outcome event = loop.outcome event entry.1 := rfl
  simp [View.arrival, view, running, ← seen]

theorem arrivedInAll_eq_zero (loop : Loop) {action : Action}
    (silent : ∀ event, action ≠ .handle (.publish event) ∨ loop.hasEnded = true) :
    loop.arrivedInAll action = 0 := by
  refine List.sum_eq_zero_iff_forall_eq_nat.mpr fun count present => ?_
  obtain ⟨entry, -, rfl⟩ := List.mem_map.mp present
  rw [arrived_step]
  cases action with
  | create id | receive id | detach id => rfl
  | handle command =>
    cases command with
    | register id | unregister id | stop => rfl
    | publish event =>
      have ended : loop.hasEnded = true := by simpa using silent event
      simp [View.arrival, view, ended]

/-- The events that the loop publishes on an action. -/
def published (loop : Loop) (action : Action) : List Event :=
  if loop.hasEnded then [] else action.published?.toList

/-- Every action counts what it publishes and what arrives by it. -/
theorem traffic_step (balanced : IsBalanced loop) (action : Action) :
    (loop.step action).traffic = (loop.counters.published + (loop.published action).length,
      loop.counters.delivered + loop.arrivedInAll action) := by
  have quiet (silent : ∀ event, action ≠ .handle (.publish event) ∨ loop.hasEnded = true)
      (kept : (loop.step action).traffic = loop.traffic) :
      (loop.step action).traffic = (loop.counters.published + (loop.published action).length,
        loop.counters.delivered + loop.arrivedInAll action) := by
    have unpublished : loop.published action = [] := by
      rw [published]
      split
      · rfl
      · rename_i running
        cases action with
        | create id | receive id | detach id => rfl
        | handle command =>
          cases command with
          | register id | unregister id | stop => rfl
          | publish event => exact absurd (silent event) (by simp [running])
    rw [kept, unpublished, loop.arrivedInAll_eq_zero silent]
    rfl
  cases action with
  | receive id | detach id => exact quiet (fun _ => Or.inl (by simp)) rfl
  | create id =>
    refine quiet (fun _ => Or.inl (by simp)) ?_
    rw [step]
    split <;> rfl
  | handle command =>
    by_cases ended : loop.hasEnded = true
    · refine quiet (fun _ => Or.inr ended) ?_
      simp only [step, handle, ended, if_true, ite_self]
    · cases command with
      | register id =>
        refine quiet (fun _ => Or.inl (by simp)) ?_
        rw [step]
        split
        · simp only [handle, ended]
          rfl
        · rfl
      | unregister id =>
        refine quiet (fun _ => Or.inl (by simp)) ?_
        simp only [step, admits, if_true, handle, ended]
        exact loop.traffic_unregister id
      | stop =>
        refine quiet (fun _ => Or.inl (by simp)) ?_
        simp only [step, admits, if_true, handle, ended]
        exact loop.traffic_stop
      | publish event =>
        simp only [step, admits, if_true, handle, ended, published,
          balanced.arrivedInAll_publish ended]
        exact loop.traffic_publish event

/-- The events that the loop publishes in the course of several actions. -/
def publishedIn (loop : Loop) : List Action → List Event
  | [] => []
  | action :: rest => loop.published action ++ (loop.step action).publishedIn rest

theorem publishedIn_append (loop : Loop) (actions more : List Action) :
    loop.publishedIn (actions ++ more) =
      loop.publishedIn actions ++ (loop.run actions).publishedIn more := by
  induction actions generalizing loop with
  | nil => rfl
  | cons action rest inductionHypothesis =>
    rw [List.cons_append, publishedIn, publishedIn, inductionHypothesis, List.append_assoc]
    rfl

theorem arrivals_of_absent {loop : Loop} {id : Id} {actions : List Action}
    (absent : (loop.run actions).mailbox? id = none) : loop.arrivals id actions = [] := by
  induction actions using List.reverseRecOn with
  | nil => rfl
  | append_singleton actions action inductionHypothesis =>
    rw [run_append] at absent
    obtain ⟨before, -⟩ := ((loop.run actions).mailbox?_step_eq_none id action).mp absent
    have nothing : ((loop.run actions).view id).arrival action = [] := by
      have missing : ((loop.run actions).view id).mailbox = none := before
      cases action with
      | create other | receive other | detach other => rfl
      | handle command => cases command <;> simp [View.arrival, View.outcome, missing]
    rw [arrivals_append, inductionHypothesis before, arrivals, arrived_step, nothing]
    rfl

/-- At most one subscription is made, behind all others. -/
theorem ids_step (loop : Loop) (action : Action) :
    (loop.step action).mailboxes.map Prod.fst = loop.mailboxes.map Prod.fst ∨
      ∃ id, action = .create id ∧ loop.mailbox? id = none ∧
        (loop.step action).mailboxes.map Prod.fst = loop.mailboxes.map Prod.fst ++ [id] := by
  cases action with
  | receive id | detach id => exact Or.inl (Narrows.alter loop id _).made
  | create id =>
    cases found : loop.mailbox? id with
    | some mailbox => exact Or.inl (by simp [step, found])
    | none => exact Or.inr ⟨id, rfl, found, by simp [step, found, create]⟩
  | handle command =>
    refine Or.inl ?_
    rw [step]
    split
    · unfold handle
      split
      · rfl
      · cases command with
        | register id => exact ids_change id _ loop.mailboxes
        | unregister id => exact (Narrows.unregister loop id).made
        | publish event => exact (Narrows.publish loop event).made
        | stop => exact (Narrows.stop loop).made
    · rfl

theorem published_run (buffer : Nat) (actions : List Action) :
    ((Loop.start buffer).run actions).counters.published =
      ((Loop.start buffer).publishedIn actions).length := by
  induction actions using List.reverseRecOn with
  | nil => rfl
  | append_singleton actions action inductionHypothesis =>
    have counted := congrArg Prod.fst
      (traffic_step ((IsBalanced.start buffer).run actions) action)
    rw [run_append, publishedIn_append, List.length_append, ← inductionHypothesis, publishedIn,
      publishedIn, List.append_nil]
    exact counted

/-- The count of deliveries is the number of events that have arrived in all queues together. -/
theorem delivered_run (buffer : Nat) (actions : List Action) :
    ((Loop.start buffer).run actions).counters.delivered =
      ((((Loop.start buffer).run actions).mailboxes.map Prod.fst).map fun id =>
        ((Loop.start buffer).arrivals id actions).length).sum := by
  induction actions using List.reverseRecOn with
  | nil => rfl
  | append_singleton actions action inductionHypothesis =>
    have counted := congrArg Prod.snd
      (traffic_step ((IsBalanced.start buffer).run actions) action)
    have more (id : Id) : ((Loop.start buffer).arrivals id (actions ++ [action])).length =
        ((Loop.start buffer).arrivals id actions).length +
          (arrived ((Loop.start buffer).run actions) (((Loop.start buffer).run actions).step action)
            id).length := by
      simp [arrivals_append, arrivals]
    have made := ids_step ((Loop.start buffer).run actions) action
    have absent (id : Id) := @arrivals_of_absent (Loop.start buffer) id actions
    rw [run_append]
    change (((Loop.start buffer).run actions).step action).traffic.2 =
      (((((Loop.start buffer).run actions).step action).mailboxes.map Prod.fst).map _).sum
    generalize (Loop.start buffer).run actions = loop at *
    have known : (loop.step action).traffic.2 = ((loop.mailboxes.map Prod.fst).map fun id =>
        ((Loop.start buffer).arrivals id (actions ++ [action])).length).sum := by
      simp only [more, List.sum_map_add, ← inductionHypothesis]
      rw [counted, arrivedInAll, List.map_map]
      rfl
    rw [known]
    -- a subscription that has just been made adds a queue in which nothing has arrived
    rcases made with same | ⟨id, rfl, unmade, extended⟩
    · rw [same]
    · rw [extended, List.map_append, List.sum_append, List.map_singleton, List.sum_singleton, more,
        absent id unmade, arrived_step]
      rfl

end Loop

/-- The events whose publication the loop has handled. -/
def publications (history : List Incident) : List Event :=
  (calls history .handled).filterMap fun call => (Action.handle call.command).published?

theorem publications_append (history : List Incident) (occasion : Occasion) (call : Call) :
    publications (history ++ [⟨occasion, call⟩]) = publications history ++
      if occasion = .handled then (Action.handle call.command).published?.toList else [] := by
  rw [publications, calls_append, List.filterMap_append]
  refine congrArg _ ?_
  split
  · cases published : (Action.handle call.command).published? <;> simp [published]
  · rfl

/-- Every transition is one action of the loop, which publishes what the history says was published, or
leaves the loop as it is. -/
theorem Linked.enacts {buffer : Nat} {actions : List Action} {system after : System}
    (linked : Linked buffer actions system) (sound : Sound system)
    (transition : System.Transition system after) :
    (after.loop = system.loop ∧ publications after.history = publications system.history) ∨
      ∃ action, after.loop = system.loop.step action ∧
        publications after.history = publications system.history ++ system.loop.published action := by
  have unpublished {action : Action} (silent : action.published? = none) :
      system.loop.published action = [] := by
    simp [Loop.published, silent]
  cases transition with
  | stay | turn | close => exact Or.inl ⟨rfl, rfl⟩
  | @subscribe client idle =>
    have absent := linked.unmade system.nextId (Nat.le_refl _)
    refine Or.inr ⟨.create system.nextId, ?_, ?_⟩
    · simp [System.call, System.turn, System.note, System.create, Loop.step, absent]
    · rw [unpublished rfl]
      simp [System.call, System.turn, System.note, System.create, publications_append]
  | call idle other =>
    exact Or.inl ⟨rfl, by simp [System.call, System.turn, System.note, publications_append]⟩
  | enter stands isOpen =>
    exact Or.inl ⟨rfl, by simp [System.enter, System.turn, System.note, publications_append]⟩
  | @finish client call isOk stands =>
    have noted : publications (system.note (.returned isOk) call).history =
        publications system.history := by
      simp [System.note, publications_append]
    simp only [System.finish]
    split
    · exact Or.inr ⟨.detach _, rfl, by rw [unpublished rfl, List.append_nil]; exact noted⟩
    · exact Or.inl ⟨rfl, noted⟩
  | @leave call rest serving next isStop =>
    have stops : call.command = .stop := by
      obtain ⟨number, client, command⟩ := call
      cases command <;> simp [Call.isStop] at isStop ⊢
    exact Or.inl ⟨rfl, by simp [System.note, publications_append, stops, Action.published?]⟩
  | @handle call rest serving next isStop =>
    have running := linked.running (by simp [serving])
    -- a registration that waits in the inbox is the first of its subscription
    have admitted : system.loop.admits call.command = true := by
      cases command : call.command with
      | register id =>
        exact linked.isFresh_of_unhandled (sound.began_of_next next) command
          (sound.next_is_new next).1
      | unregister id | publish event | stop => rfl
    rw [System.acknowledge_eq]
    refine Or.inr ⟨.handle call.command, ?_, ?_⟩
    · simp [System.note, Loop.step, admitted]
    · simp [System.note, publications_append, Loop.published, running]
  | discard draining next =>
    rw [System.acknowledge_eq]
    exact Or.inl ⟨rfl, by simp [System.note, publications_append]⟩
  | finishLoop draining empty =>
    have running := linked.running (by simp [draining])
    refine Or.inr ⟨.handle .stop, ?_, ?_⟩
    · simp [Loop.step, Loop.admits, Loop.handle, running]
    · rw [unpublished rfl, List.append_nil]
  | receive id => exact Or.inr ⟨.receive id, rfl, by rw [unpublished rfl, List.append_nil]⟩
  | detach id => exact Or.inr ⟨.detach id, rfl, by rw [unpublished rfl, List.append_nil]⟩

namespace System

/-- The events that a run puts into the queue of a subscription. -/
def enqueued (system : System) (id : Id) : List Move → List Event
  | [] => []
  | move :: rest =>
    Loop.arrived system.loop (system.step move).loop id ++ (system.step move).enqueued id rest

theorem enqueued_append (system : System) (id : Id) (moves more : List Move) :
    system.enqueued id (moves ++ more) =
      system.enqueued id moves ++ (system.run moves).enqueued id more := by
  induction moves generalizing system with
  | nil => rfl
  | cons move rest inductionHypothesis =>
    rw [List.cons_append, enqueued, enqueued, inductionHypothesis, List.append_assoc]
    rfl

/-- A run of the system is a run of its loop, with the same events published and queued. -/
theorem run_eq_loop_run (buffer inboxCapacity : Nat) (moves : List Move) :
    ∃ actions, ((start buffer inboxCapacity).run moves).loop = (Loop.start buffer).run actions ∧
      publications ((start buffer inboxCapacity).run moves).history =
        (Loop.start buffer).publishedIn actions ∧
      ∀ id, (start buffer inboxCapacity).enqueued id moves =
        (Loop.start buffer).arrivals id actions := by
  induction moves using List.reverseRecOn with
  | nil => exact ⟨[], rfl, rfl, fun _ => rfl⟩
  | append_singleton moves move inductionHypothesis =>
    obtain ⟨actions, loop, published, queued⟩ := inductionHypothesis
    have sound := Sound.run buffer inboxCapacity moves
    obtain ⟨linking, linked⟩ := (Linked.start buffer inboxCapacity).run
      (Sound.start buffer inboxCapacity) moves
    have queuedNext (id : Id) : (start buffer inboxCapacity).enqueued id (moves ++ [move]) =
        (Loop.start buffer).arrivals id actions ++
          Loop.arrived ((start buffer inboxCapacity).run moves).loop
            (((start buffer inboxCapacity).run moves).step move).loop id := by
      rw [enqueued_append, queued id, enqueued, enqueued, List.append_nil]
    -- a move either leaves the loop alone or is one of its actions
    rcases linked.enacts sound (step_transition _ move) with
      ⟨same, unpublished⟩ | ⟨action, stepped, publishes⟩
    · refine ⟨actions, ?_, ?_, fun id => ?_⟩
      · rw [run_append]
        exact same.trans loop
      · rw [run_append]
        exact unpublished.trans published
      · rw [queuedNext, same, Loop.arrived_self, List.append_nil]
    · refine ⟨actions ++ [action], ?_, ?_, fun id => ?_⟩
      · rw [run_append, Loop.run_append, ← loop]
        exact stepped
      · rw [run_append, Loop.publishedIn_append, ← loop, ← published, Loop.publishedIn,
          Loop.publishedIn, List.append_nil]
        exact publishes
      · rw [queuedNext, Loop.arrivals_append, ← loop, stepped]
        simp [Loop.arrivals]

end System

/-- The counters of a hub tell what has happened to its subscriptions and its events. The count of live
subscriptions stays at zero where it would go below, so that the balance of the registrations could
not be kept if it ever did. -/
structure Counted (system : System) (enqueued : Id → List Event) : Prop where
  made_distinct : Association.Distinct system.loop.mailboxes
  active : system.loop.counters.active = system.loop.live.length
  registrations : system.loop.counters.registrations = system.loop.counters.active +
    system.loop.counters.evictions + system.loop.counters.unregistrations
  evictions : system.loop.counters.evictions = system.loop.count .evicted
  unregistrations : system.loop.counters.unregistrations = system.loop.count .unregistered
  published : system.loop.counters.published = (publications system.history).length
  delivered : system.loop.counters.delivered =
    ((system.loop.mailboxes.map Prod.fst).map fun id => (enqueued id).length).sum

/-- After every move of clients, readers and the loop the counters are right: live subscriptions,
evictions and unregistrations make up all registrations, and every event that was published or has
come into a queue was counted once. -/
theorem counters_balanced (buffer inboxCapacity : Nat) (moves : List Move) :
    Counted ((System.start buffer inboxCapacity).run moves)
      fun id => (System.start buffer inboxCapacity).enqueued id moves := by
  obtain ⟨actions, loop, published, queued⟩ := System.run_eq_loop_run buffer inboxCapacity moves
  have balanced := (Loop.IsBalanced.start buffer).run actions
  have publications := Loop.published_run buffer actions
  have deliveries := Loop.delivered_run buffer actions
  simp only [← queued] at deliveries
  rw [← loop] at balanced publications deliveries
  constructor
  case made_distinct => exact balanced.tidy.made
  case active => exact balanced.active
  case registrations => exact balanced.registrations
  case evictions => exact balanced.evictions
  case unregistrations => exact balanced.unregistrations
  case published => rw [publications, published]
  case delivered => exact deliveries

end Dashboard.Hub
