import Dashboard.Proofs.Hub.FanOut
import Mathlib.Data.List.Induction

namespace Dashboard.Hub

namespace Loop

/-- The events queued for a subscription, oldest first. -/
def queue (loop : Loop) (id : Id) : List Event := ((loop.mailbox? id).map Mailbox.queue).getD []

/-- The events in the queue of a subscription behind those that were there before. -/
def arrived (before after : Loop) (id : Id) : List Event :=
  (after.queue id).drop (before.queue id).length

theorem arrived_self (loop : Loop) (id : Id) : arrived loop loop id = [] :=
  List.drop_length

/-- What arrives in the course of several actions. -/
def arrivals (loop : Loop) (id : Id) : List Action → List Event
  | [] => []
  | action :: rest => arrived loop (loop.step action) id ++ arrivals (loop.step action) id rest

theorem arrivals_append (loop : Loop) (id : Id) (actions more : List Action) :
    loop.arrivals id (actions ++ more) =
      loop.arrivals id actions ++ (loop.run actions).arrivals id more := by
  induction actions generalizing loop with
  | nil => rfl
  | cons action rest inductionHypothesis =>
    rw [List.cons_append, arrivals, arrivals, inductionHypothesis, List.append_assoc]
    rfl

end Loop

namespace View

def queue (view : View) : List Event := (view.mailbox.map Mailbox.queue).getD []

/-- The event that an action puts into the queue of the subscription: one that is published while the
subscription is live and has room for it. -/
def arrival (view : View) : Action → List Event
  | .handle (.publish event) =>
    if !view.hasEnded && view.isLive && view.outcome event = .accepted then [event] else []
  | _ => []

theorem queue_change (view : View) {update : Mailbox → Mailbox}
    (keeps : ∀ mailbox, (update mailbox).queue = mailbox.queue) :
    (view.change update).queue = view.queue := by
  cases found : view.mailbox with
  | none => simp [queue, change, found]
  | some mailbox => simp [queue, change, found, keeps]

theorem queue_close (view : View) (state : State) : (view.close state).queue = view.queue := by
  rw [close]
  split
  · exact view.queue_change fun _ => rfl
  · rfl

theorem queue_settle (view : View) (outcome : Mailbox.Outcome) :
    (view.settle outcome).queue = view.queue := by
  cases outcome with
  | accepted => rfl
  | full | readerGone => exact view.queue_change fun _ => rfl

theorem queue_publish (view : View) (event : Event) :
    (view.publish event).queue =
      view.queue ++ if view.isLive && view.outcome event = .accepted then [event] else [] := by
  by_cases live : view.isLive = true
  · rw [publish, if_pos live, queue_settle]
    cases found : view.mailbox with
    | none => simp [queue, change, outcome, found]
    | some mailbox =>
      simp only [queue, change, outcome, found, live, Mailbox.offer]
      by_cases attached : mailbox.isAttached = true
      · by_cases full : view.capacity ≤ mailbox.queue.length
        · simp [attached, full]
        · simp [attached, full]
      · simp [attached]
  · simp [publish, live]

theorem queue_handle (view : View) (id : Id) (command : Command) :
    (view.handle id command).queue =
      view.queue ++ match command with
        | .publish event =>
          if view.isLive && view.outcome event = .accepted then [event] else []
        | _ => [] := by
  cases command with
  | register other =>
    rw [handle, List.append_nil]
    split
    · exact view.queue_change fun _ => rfl
    · rfl
  | unregister other =>
    rw [handle, List.append_nil]
    split
    · exact view.queue_close .unregistered
    · rfl
  | publish event => exact view.queue_publish event
  | stop => rw [List.append_nil]; exact view.queue_close .unregistered

/-- A reader takes from the front or throws everything away; the loop adds at the end. -/
theorem queue_step (view : View) (id : Id) (action : Action) :
    (view.step id action).queue.drop view.queue.length = view.arrival action := by
  cases action with
  | create other =>
    simp only [step, arrival]
    split
    · exact List.drop_nil
    · exact List.drop_length
  | handle command =>
    rw [step]
    by_cases ended : view.hasEnded = true
    · rw [if_pos ended, List.drop_length]
      cases command <;> simp [arrival, ended]
    · rw [if_neg ended, queue_handle, List.drop_left]
      cases command <;> simp [arrival, ended]
  | receive other =>
    simp only [step, arrival]
    split
    · cases found : view.mailbox with
      | none => simp [queue, change, found]
      | some mailbox =>
        cases queued : mailbox.queue <;> simp [queue, change, found, Mailbox.take, queued]
    · exact List.drop_length
  | detach other =>
    simp only [step, arrival]
    split
    · cases found : view.mailbox <;> simp [queue, change, found, Mailbox.detach]
    · exact List.drop_length

end View

namespace Loop

theorem arrived_step (loop : Loop) (action : Action) (id : Id) :
    arrived loop (loop.step action) id = (loop.view id).arrival action := by
  have seen := (loop.view id).queue_step id action
  rwa [← view_step] at seen

end Loop

/-- The part grows by what arrives, and by nothing else. -/
theorem Faithful.events_next {buffer : Nat} {id : Id} {view : View} {obtained : List Event}
    {tenure : Tenure} (faithful : Faithful view obtained tenure)
    (capacity : view.capacity = max 1 buffer) (action : Action) :
    (tenure.next buffer id view action).events = tenure.events ++ view.arrival action := by
  have silent (idle : view.isLive = false) : view.arrival action = [] := by
    cases action with
    | handle command => cases command <;> simp [View.arrival, idle]
    | create other | receive other | detach other => rfl
  cases faithful with
  | ahead idle untouched =>
    rw [silent idle, Tenure.next]
    split <;> rfl
  | past gone found terminal complete => rw [silent gone, List.append_nil]; rfl
  | @during mailbox _ events live running found active complete =>
    cases action with
    | create other | receive other | detach other =>
      rw [Tenure.next_of_private _ (by simp)]
      exact (List.append_nil _).symm
    | handle command =>
      cases command with
      | register other => simp [Tenure.next, found, Mailbox.removal?, Action.published?,
          View.arrival]
      | unregister other =>
        by_cases same : other = id <;> simp [Tenure.next, found, Mailbox.removal?,
          Action.published?, View.arrival, same, Tenure.events]
      | stop => simp [Tenure.next, found, Mailbox.removal?, View.arrival, Tenure.events]
      | publish event =>
        by_cases attached : mailbox.isAttached = true
        · by_cases full : view.capacity ≤ mailbox.queue.length
          · have removed : mailbox.removal? buffer id (.handle (.publish event)) = some .evicted := by
              simp only [Mailbox.removal?, ← capacity, attached, full, Bool.not_true, if_true, if_false,
                Bool.false_eq_true]
            simp [Tenure.next, found, removed, View.arrival, View.outcome, Mailbox.offer, attached, full,
              Tenure.events]
          · have kept : mailbox.removal? buffer id (.handle (.publish event)) = none := by
              simp only [Mailbox.removal?, ← capacity, attached, full, Bool.not_true, if_false,
                Bool.false_eq_true]
            simp [Tenure.next, found, kept, Action.published?, View.arrival, live, running,
              View.outcome, Mailbox.offer, attached, full, Tenure.events]
        · simp [Tenure.next, found, Mailbox.removal?, View.arrival, live, View.outcome,
            Mailbox.offer, attached, Tenure.events]

theorem Loop.capacity_run (loop : Loop) (actions : List Action) :
    (loop.run actions).capacity = loop.capacity := by
  induction actions generalizing loop with
  | nil => rfl
  | cons action rest inductionHypothesis =>
    have step := (loop.view 0).step_capacity 0 action
    rw [← view_step] at step
    exact (inductionHypothesis (loop.step action)).trans step

theorem Story.capacity_of (buffer : Nat) (id : Id) (actions : List Action) :
    ((of buffer id actions).loop.view id).capacity = max 1 buffer := by
  rw [of_loop, Nat.max_comm]
  exact (Loop.start buffer).capacity_run actions

theorem Story.events_of (buffer : Nat) (id : Id) (actions : List Action) :
    (of buffer id actions).tenure.events = (Loop.start buffer).arrivals id actions := by
  induction actions using List.reverseRecOn with
  | nil => rfl
  | append_singleton actions action inductionHypothesis =>
    have faithful := faithful buffer id actions
    rw [of_append, next, faithful.events_next (capacity_of buffer id actions), inductionHypothesis,
      Loop.arrivals_append, of_loop, ← Loop.arrived_step]
    simp [Loop.arrivals]

end Dashboard.Hub
