import Dashboard.Hub.Service
import Dashboard.Proofs.Association
import Mathlib.Logic.Basic

/-! What the hub looks like from one subscription. Every step of the loop changes the view of a
subscription in a way that depends on this view alone, so nothing that other subscriptions do can
reach it. -/

namespace Dashboard.Hub

/-- What happens to a hub: somebody makes a subscription, the loop handles a command, a reader takes
an event or goes away. -/
inductive Action where
  | create (id : Id)
  | handle (command : Command)
  | receive (id : Id)
  | detach (id : Id)

/-- Whether an action can matter to a subscription. -/
def Action.concerns (id : Id) : Action → Bool
  | .create other | .receive other | .detach other => other = id
  | .handle (.register other) | .handle (.unregister other) => other = id
  | .handle (.publish _) | .handle .stop => true

namespace Loop

/-- Whether a subscription has been made and not been registered yet. -/
def isFresh (loop : Loop) (id : Id) : Bool := (loop.mailbox? id).any (·.state = .registered)

/-- A registration needs a fresh subscription; any other command can always come. -/
def admits (loop : Loop) : Command → Bool
  | .register id => loop.isFresh id
  | _ => true

/-- One action. A number stands for one subscription, which is made once and registered once; what
would break this is passed over. -/
def step (loop : Loop) : Action → Loop
  | .create id => if (loop.mailbox? id).isSome then loop else loop.create id
  | .handle command => if loop.admits command then (loop.handle command).1 else loop
  | .receive id => loop.alter id fun mailbox => mailbox.take.2
  | .detach id => loop.alter id Mailbox.detach

def run (loop : Loop) (actions : List Action) : Loop := actions.foldl step loop

theorem run_append (loop : Loop) (actions more : List Action) :
    loop.run (actions ++ more) = (loop.run actions).run more := by
  simp [run]

end Loop

/-- The hub as far as it concerns one subscription. -/
structure View where
  capacity : Nat
  mailbox : Option Mailbox
  isLive : Bool
  hasEnded : Bool

def Loop.view (loop : Loop) (id : Id) : View :=
  ⟨loop.capacity, loop.mailbox? id, decide (id ∈ loop.live), loop.hasEnded⟩

theorem Mailbox.take_spec (mailbox : Mailbox) :
    mailbox.take.1.toList ++ mailbox.take.2.queue = mailbox.queue ∧
      mailbox.take.2.state = mailbox.state ∧ mailbox.take.2.isAttached = mailbox.isAttached := by
  cases queued : mailbox.queue <;> simp [take, queued]

namespace View

def change (view : View) (change : Mailbox → Mailbox) : View :=
  { view with mailbox := view.mailbox.map change }

/-- What becomes of an event that the subscription is offered. -/
def outcome (view : View) (event : Event) : Mailbox.Outcome :=
  match view.mailbox with
  | some mailbox => (mailbox.offer view.capacity event).1
  | none => .readerGone

/-- The subscription is live no longer, and its reader is told why. -/
def remove (view : View) (state : State) : View :=
  { view.change (·.setState state) with isLive := false }

/-- What an offer with the given outcome leaves of the view: whoever cannot take an event goes. -/
def settle (view : View) : Mailbox.Outcome → View
  | .accepted => view
  | .full => view.remove .evicted
  | .readerGone => view.remove .unregistered

/-- The subscription leaves the live ones, if it is one of them. -/
def close (view : View) (state : State) : View := if view.isLive then view.remove state else view

def publish (view : View) (event : Event) : View :=
  if view.isLive then
    (view.change fun mailbox => (mailbox.offer view.capacity event).2).settle (view.outcome event)
  else view

def register (view : View) : View :=
  { view.change (·.setState .active) with isLive := true }

/-- What the end of the loop leaves of the view. -/
def stop (view : View) : View := { view.close .unregistered with hasEnded := true }

/-- Handles a command for the subscription with the given number. -/
def handle (view : View) (id : Id) : Command → View
  | .register other =>
    if other = id && view.mailbox.any (·.state = .registered) then view.register else view
  | .unregister other => if other = id then view.close .unregistered else view
  | .publish event => view.publish event
  | .stop => view.stop

/-- What an action does to the subscription with the given number. -/
def step (view : View) (id : Id) : Action → View
  | .create other =>
    if other = id && view.mailbox.isNone then { view with mailbox := some .new } else view
  | .handle command => if view.hasEnded then view else view.handle id command
  | .receive other => if other = id then view.change fun mailbox => mailbox.take.2 else view
  | .detach other => if other = id then view.change Mailbox.detach else view

end View

namespace Loop

theorem lookup_change (id other : Id) (update : Mailbox → Mailbox)
    (mailboxes : List (Id × Mailbox)) :
    (change id update mailboxes).lookup other =
      if other = id then (mailboxes.lookup other).map update else mailboxes.lookup other := by
  have keeps (entry : Id × Mailbox) :
      (if entry.1 = id then (id, update entry.2) else entry).1 = entry.1 := by
    split <;> simp_all
  rw [change, Association.lookup_map _ keeps]
  by_cases same : other = id
  · simp [same]
  · simp [same]

theorem mailbox?_alter (loop : Loop) (id other : Id) (update : Mailbox → Mailbox) :
    (loop.alter id update).mailbox? other =
      if other = id then (loop.mailbox? other).map update else loop.mailbox? other :=
  lookup_change id other update loop.mailboxes

theorem mailbox?_create (loop : Loop) (id other : Id) (absent : loop.mailbox? id = none) :
    (loop.create id).mailbox? other = if other = id then some .new else loop.mailbox? other := by
  simp only [mailbox?, create, List.lookup_append] at absent ⊢
  by_cases same : other = id
  · simp [same, absent]
  · simp [same, Association.lookup_cons]

theorem mailbox?_remove (loop : Loop) (id other : Id) (state : State) :
    (loop.remove id state).mailbox? other =
      if other = id then (loop.mailbox? other).map (·.setState state) else loop.mailbox? other :=
  lookup_change id other _ loop.mailboxes

theorem lookup_offerAll (loop : Loop) (event : Event) (id : Id) :
    (loop.offerAll event).lookup id =
      (loop.mailbox? id).map fun mailbox =>
        if id ∈ loop.live then (mailbox.offer loop.capacity event).2 else mailbox := by
  have keeps (entry : Id × Mailbox) :
      (if entry.1 ∈ loop.live then (entry.1, (entry.2.offer loop.capacity event).2)
        else entry).1 = entry.1 := by
    split <;> rfl
  rw [offerAll, Association.lookup_map _ keeps]
  by_cases live : id ∈ loop.live
  · simp [live, mailbox?]
  · simp [live, mailbox?]

theorem view_remove (loop : Loop) (id other : Id) (state : State) :
    (loop.remove id state).view other =
      if other = id then (loop.view other).remove state else loop.view other := by
  have mailboxes := loop.mailbox?_remove id other state
  rcases eq_or_ne other id with rfl | different
  · simp only [view, View.remove, View.change, mailboxes, if_true]
    simp [remove]
  · simp only [view, mailboxes, if_neg different]
    simp [remove, different]

theorem view_drop (loop : Loop) (event : Event) (id other : Id) (outcome : Mailbox.Outcome) :
    (loop.drop event id outcome).1.view other =
      if other = id then (loop.view other).settle outcome else loop.view other := by
  cases outcome with
  | accepted => exact (ite_self _).symm
  | full => exact loop.view_remove id other .evicted
  | readerGone => exact loop.view_remove id other .unregistered

end Loop

namespace View

theorem remove_remove (view : View) (state : State) :
    (view.remove state).remove state = view.remove state := by
  cases found : view.mailbox <;> simp [remove, change, found, Mailbox.setState]

theorem settle_settle (view : View) (outcome : Mailbox.Outcome) :
    (view.settle outcome).settle outcome = view.settle outcome := by
  cases outcome with
  | accepted => rfl
  | full => exact view.remove_remove .evicted
  | readerGone => exact view.remove_remove .unregistered

end View

namespace Loop

/-- A subscription that is listed more than once is closed once. -/
theorem view_dropAll (event : Event) (verdict : Id → Mailbox.Outcome) (ids : List Id) (loop : Loop)
    (other : Id) :
    (dropAll event (ids.map fun id => (id, verdict id)) loop).1.view other =
      if other ∈ ids then (loop.view other).settle (verdict other) else loop.view other := by
  induction ids generalizing loop with
  | nil => simp [dropAll]
  | cons id rest inductionHypothesis =>
    simp only [List.map_cons, dropAll, inductionHypothesis, view_drop]
    rcases eq_or_ne other id with rfl | different
    · by_cases again : other ∈ rest <;> simp [again, View.settle_settle]
    · simp [different]

theorem view_deliver (loop : Loop) (event : Event) (id : Id) :
    (loop.deliver event).1.view id = (loop.view id).publish event := by
  have offered := loop.lookup_offerAll event id
  have verdict : (loop.view id).outcome event = loop.outcome event id := rfl
  simp only [deliver, view_dropAll, View.publish, verdict]
  by_cases live : id ∈ loop.live
  · simp only [view, mailbox?, View.change, offered, live, if_true, decide_true]
  · simp only [view, mailbox?, offered, live, if_false, decide_false]
    simp

theorem view_publish (loop : Loop) (event : Event) (id : Id) :
    (loop.publish event).1.view id = (loop.view id).publish event :=
  view_deliver { loop with counters := loop.counters.publish } event id

theorem view_register (loop : Loop) (id other : Id) :
    (loop.register id).1.view other =
      if other = id then (loop.view other).register else loop.view other := by
  have mailboxes := lookup_change id other (Mailbox.setState .active) loop.mailboxes
  rcases eq_or_ne other id with rfl | different
  · simp only [register, view, mailbox?, mailboxes, View.register, View.change, if_true]
    simp
  · simp only [register, view, mailbox?, mailboxes, if_neg different]
    simp [different]

theorem view_unregister (loop : Loop) (id other : Id) :
    (loop.unregister id).1.view other =
      if other = id then (loop.view other).close .unregistered else loop.view other := by
  by_cases live : id ∈ loop.live
  · rw [unregister, if_pos live]
    refine (loop.view_remove id other .unregistered).trans ?_
    rcases eq_or_ne other id with rfl | different
    · simp [View.close, view, live]
    · simp [different]
  · rw [unregister, if_neg live]
    rcases eq_or_ne other id with rfl | different
    · simp [View.close, view, live]
    · simp [different]

/-- Removing subscriptions one after another closes each of them. -/
theorem view_removeAll (ids : List Id) (loop : Loop) (other : Id) :
    (ids.foldl (fun loop id =>
        { loop.remove id .unregistered with counters := loop.counters.unregister }) loop).view other =
      if other ∈ ids then (loop.view other).remove .unregistered else loop.view other := by
  induction ids generalizing loop with
  | nil => simp
  | cons id rest inductionHypothesis =>
    have removed : ({ loop.remove id .unregistered with
        counters := loop.counters.unregister } : Loop).view other = _ :=
      loop.view_remove id other .unregistered
    rw [List.foldl_cons, inductionHypothesis, removed]
    rcases eq_or_ne other id with rfl | different
    · by_cases again : other ∈ rest <;> simp [again, View.remove_remove]
    · simp [different]

theorem view_stop (loop : Loop) (id : Id) : loop.stop.1.view id = (loop.view id).stop := by
  have closed := view_removeAll loop.live loop id
  have ended (last : Loop) :
      ({ last with hasEnded := true } : Loop).view id = { last.view id with hasEnded := true } := rfl
  rw [stop, ended, closed]
  by_cases live : id ∈ loop.live <;> simp [View.stop, View.close, view, live]

theorem view_handle (loop : Loop) (command : Command) (id : Id) (admitted : loop.admits command) :
    (loop.handle command).1.view id =
      if (loop.view id).hasEnded then loop.view id else (loop.view id).handle id command := by
  have same : (loop.view id).hasEnded = loop.hasEnded := rfl
  by_cases ended : loop.hasEnded = true
  · simp [handle, same, ended]
  · rw [same, if_neg ended]
    simp only [handle, if_neg ended]
    cases command with
    | register other =>
      have fresh : (loop.view other).mailbox.any (·.state = .registered) = true := admitted
      refine (loop.view_register other id).trans ?_
      rcases eq_or_ne id other with rfl | different
      · simp [View.handle, fresh]
      · simp [View.handle, different, Ne.symm different]
    | unregister other =>
      refine (loop.view_unregister other id).trans ?_
      simp only [View.handle, eq_comm]
    | publish event => exact loop.view_publish event id
    | stop => exact loop.view_stop id

theorem view_alter (loop : Loop) (id other : Id) (update : Mailbox → Mailbox) :
    (loop.alter id update).view other =
      if other = id then (loop.view other).change update else loop.view other := by
  have altered := loop.mailbox?_alter id other update
  rcases eq_or_ne other id with rfl | different
  · simp only [view, altered, if_true]
    rfl
  · simp only [view, altered, if_neg different]
    rfl

theorem view_create (loop : Loop) (id other : Id) (absent : loop.mailbox? id = none) :
    (loop.create id).view other =
      if other = id then { loop.view other with mailbox := some .new } else loop.view other := by
  have created := loop.mailbox?_create id other absent
  rcases eq_or_ne other id with rfl | different
  · simp only [view, created, if_true]
    rfl
  · simp only [view, created, if_neg different]
    rfl

/-- One action of the hub is one step of the view, for every subscription. -/
theorem view_step (loop : Loop) (action : Action) (id : Id) :
    (loop.step action).view id = (loop.view id).step id action := by
  cases action with
  | create other =>
    cases found : loop.mailbox? other with
    | some mailbox =>
      have present : (loop.view other).mailbox = some mailbox := found
      rcases eq_or_ne other id with rfl | different
      · simp [step, View.step, found, present]
      · simp [step, View.step, found, different]
    | none =>
      have absent : (loop.view other).mailbox = none := found
      rcases eq_or_ne other id with rfl | different
      · simp [step, View.step, found, absent, view_create]
      · simp [step, View.step, found, view_create, different, Ne.symm different]
  | handle command =>
    by_cases admitted : loop.admits command = true
    · rw [step, if_pos admitted, loop.view_handle command id admitted]
      rfl
    · rw [step, if_neg admitted]
      cases command with
      | register other =>
        have stale : ¬(loop.view other).mailbox.any (·.state = .registered) = true := admitted
        rcases eq_or_ne other id with rfl | different
        · simp [View.step, View.handle, stale]
        · simp [View.step, View.handle, different]
      | unregister other => exact absurd rfl admitted
      | publish event => exact absurd rfl admitted
      | stop => exact absurd rfl admitted
  | receive other =>
    refine (loop.view_alter other id _).trans ?_
    simp only [View.step, eq_comm]
  | detach other =>
    refine (loop.view_alter other id _).trans ?_
    simp only [View.step, eq_comm]

end Loop

namespace View

/-- A live subscription goes when its reader is gone, else when its queue is full, and else the event
is the newest in its queue. -/
theorem publish_of_live {view : View} {mailbox : Mailbox} (event : Event)
    (live : view.isLive = true) (found : view.mailbox = some mailbox) :
    view.publish event =
      if mailbox.isAttached then
        if view.capacity ≤ mailbox.queue.length then view.remove .evicted
        else { view with mailbox := some { mailbox with queue := mailbox.queue ++ [event] } }
      else view.remove .unregistered := by
  obtain ⟨capacity, _, isLive, hasEnded⟩ := view
  obtain rfl : isLive = true := live
  cases found
  by_cases attached : mailbox.isAttached = true
  · by_cases full : capacity ≤ mailbox.queue.length
    · simp [publish, outcome, change, Mailbox.offer, attached, full, settle]
    · simp [publish, outcome, change, Mailbox.offer, attached, full, settle]
  · simp [publish, outcome, change, Mailbox.offer, attached, settle]

/-- What does not concern a subscription leaves its view as it is. -/
theorem step_of_not_concerns (view : View) {id : Id} {action : Action}
    (unconcerned : action.concerns id = false) : view.step id action = view := by
  cases action with
  | create other =>
    have different : other ≠ id := by simpa [Action.concerns] using unconcerned
    simp [step, different]
  | handle command =>
    cases command with
    | register other =>
      have different : other ≠ id := by simpa [Action.concerns] using unconcerned
      simp [step, handle, different]
    | unregister other =>
      have different : other ≠ id := by simpa [Action.concerns] using unconcerned
      simp [step, handle, different]
    | publish event => cases unconcerned
    | stop => cases unconcerned
  | receive other =>
    have different : other ≠ id := by simpa [Action.concerns] using unconcerned
    simp [step, different]
  | detach other =>
    have different : other ≠ id := by simpa [Action.concerns] using unconcerned
    simp [step, different]

theorem step_capacity (view : View) (id : Id) (action : Action) :
    (view.step id action).capacity = view.capacity := by
  have closed (state : State) : (view.close state).capacity = view.capacity := by
    unfold close
    split <;> rfl
  have settled (other : View) (outcome : Mailbox.Outcome) :
      (other.settle outcome).capacity = other.capacity := by
    cases outcome <;> rfl
  cases action with
  | create other | receive other | detach other =>
    simp only [step]
    split <;> rfl
  | handle command =>
    by_cases ended : view.hasEnded = true
    · simp only [step, ended, if_true]
    · simp only [step, ended, if_false, Bool.false_eq_true]
      cases command with
      | register other =>
        simp only [handle]
        split <;> rfl
      | unregister other =>
        simp only [handle]
        split
        · exact closed .unregistered
        · rfl
      | publish event =>
        simp only [handle, publish]
        split
        · exact settled _ _
        · rfl
      | stop => exact closed .unregistered

/-- A subscription is there from when it is made. -/
theorem mailbox_step_eq_none (view : View) (id : Id) (action : Action) :
    (view.step id action).mailbox = none ↔ view.mailbox = none ∧ action ≠ .create id := by
  have changed (update : Mailbox → Mailbox) :
      (view.change update).mailbox = none ↔ view.mailbox = none := Option.map_eq_none_iff
  have closed (state : State) : (view.close state).mailbox = none ↔ view.mailbox = none := by
    unfold close
    split
    · exact changed _
    · rfl
  cases action with
  | create other =>
    cases found : view.mailbox with
    | some mailbox => simp [step, found]
    | none => by_cases same : other = id <;> simp [step, found, same]
  | receive other | detach other =>
    simp only [step, ne_eq, reduceCtorEq, not_false_eq_true, and_true]
    split
    · exact changed _
    · rfl
  | handle command =>
    simp only [step, ne_eq, reduceCtorEq, not_false_eq_true, and_true]
    split
    · rfl
    cases command with
    | register other =>
      simp only [handle]
      split
      · exact changed _
      · rfl
    | unregister other =>
      simp only [handle]
      split
      · exact closed .unregistered
      · rfl
    | stop => exact closed .unregistered
    | publish event =>
      simp only [handle, publish]
      split
      · cases view.outcome event with
        | accepted => exact changed _
        | full | readerGone => simp [settle, remove, change]
      · rfl

/-- Nothing but the command to stop ends the loop. -/
theorem hasEnded_step (view : View) (id : Id) (action : Action) :
    (view.step id action).hasEnded = true ↔ view.hasEnded = true ∨ action = .handle .stop := by
  have closed (state : State) : (view.close state).hasEnded = view.hasEnded := by
    unfold close
    split <;> rfl
  cases action with
  | create other | receive other | detach other =>
    simp only [step, reduceCtorEq, or_false]
    split <;> rfl
  | handle command =>
    by_cases ended : view.hasEnded = true
    · simp [step, ended]
    simp only [step, ended, if_false, false_or, Bool.false_eq_true]
    cases command with
    | stop => simp [handle, stop]
    | unregister other =>
      simp only [handle, reduceCtorEq, Action.handle.injEq, iff_false]
      split
      · rwa [closed]
      · exact ended
    | register other =>
      simp only [handle, reduceCtorEq, Action.handle.injEq, iff_false]
      split
      · exact ended
      · exact ended
    | publish event =>
      simp only [handle, publish, reduceCtorEq, Action.handle.injEq, iff_false]
      split
      · cases view.outcome event with
        | accepted | full | readerGone => exact ended
      · exact ended

/-- After the end of the loop the state of a subscription is final. -/
theorem step_of_hasEnded {view : View} (ended : view.hasEnded = true) (id : Id) (action : Action) :
    (view.step id action).isLive = view.isLive ∧ ∀ mailbox, view.mailbox = some mailbox →
      (view.step id action).mailbox.map Mailbox.state = some mailbox.state := by
  cases action with
  | create other =>
    refine ⟨?_, fun mailbox found => ?_⟩
    · simp only [step]
      split <;> rfl
    · simp [step, found]
  | handle command =>
    refine ⟨?_, fun mailbox found => ?_⟩
    · simp only [step, ended, if_true]
    · simp only [step, ended, if_true, found, Option.map_some]
  | receive other =>
    refine ⟨?_, fun mailbox found => ?_⟩
    · simp only [step]
      split <;> rfl
    · simp only [step]
      split
      · simp [change, found, mailbox.take_spec.2.1]
      · rw [found, Option.map_some]
  | detach other =>
    refine ⟨?_, fun mailbox found => ?_⟩
    · simp only [step]
      split <;> rfl
    · simp only [step]
      split
      · simp [change, found, Mailbox.detach]
      · rw [found, Option.map_some]

end View

namespace Loop

variable (loop : Loop)

theorem mailbox?_step_eq_none (id : Id) (action : Action) :
    (loop.step action).mailbox? id = none ↔ loop.mailbox? id = none ∧ action ≠ .create id := by
  have seen := (loop.view id).mailbox_step_eq_none id action
  rwa [← view_step] at seen

theorem hasEnded_step (action : Action) :
    (loop.step action).hasEnded = true ↔ loop.hasEnded = true ∨ action = .handle .stop := by
  have seen := (loop.view 0).hasEnded_step 0 action
  rwa [← view_step] at seen

/-- A loop that has ended stays as it is, but for what readers take. -/
theorem run_of_hasEnded {loop : Loop} (ended : loop.hasEnded = true) (actions : List Action)
    (id : Id) :
    (id ∈ (loop.run actions).live ↔ id ∈ loop.live) ∧
      ∀ mailbox, loop.mailbox? id = some mailbox →
        ((loop.run actions).mailbox? id).map Mailbox.state = some mailbox.state := by
  induction actions generalizing loop with
  | nil =>
    refine ⟨Iff.rfl, fun mailbox found => ?_⟩
    exact congrArg (Option.map Mailbox.state) found
  | cons action rest inductionHypothesis =>
    have endedNext : (loop.step action).hasEnded = true :=
      (loop.hasEnded_step action).mpr (Or.inl ended)
    obtain ⟨liveLater, stateLater⟩ := inductionHypothesis endedNext
    have endedView : (loop.view id).hasEnded = true := ended
    obtain ⟨sameLive, sameState⟩ := View.step_of_hasEnded endedView id action
    rw [← view_step] at sameLive sameState
    refine ⟨liveLater.trans (decide_eq_decide.mp sameLive), fun mailbox found => ?_⟩
    obtain ⟨next, foundNext, same⟩ := Option.map_eq_some_iff.mp (sameState mailbox found)
    rw [← same]
    exact stateLater next foundNext

end Loop

end Dashboard.Hub
