import Dashboard.Proofs.Hub.Arrival

namespace Dashboard.Hub

theorem Mailbox.isAttached_offer (mailbox : Mailbox) (capacity : Nat) (event : Event) :
    (mailbox.offer capacity event).2.isAttached = mailbox.isAttached := by
  unfold offer
  split
  · rfl
  · split
    · rfl
    · rfl

/-- Only the reader itself gives the reading end of a subscription away. -/
theorem View.isAttached_step {view : View} {mailbox : Mailbox} (found : view.mailbox = some mailbox)
    {id : Id} {action : Action} (others : action ≠ .detach id) :
    ∃ after, (view.step id action).mailbox = some after ∧
      after.isAttached = mailbox.isAttached := by
  have changed (update : Mailbox → Mailbox)
      (keeps : ∀ mailbox, (update mailbox).isAttached = mailbox.isAttached) :
      ∃ after, (view.change update).mailbox = some after ∧
        after.isAttached = mailbox.isAttached :=
    ⟨update mailbox, by simp [change, found], keeps mailbox⟩
  have closed : ∃ after, (view.close .unregistered).mailbox = some after ∧
      after.isAttached = mailbox.isAttached := by
    unfold close
    split
    · exact changed (·.setState .unregistered) fun _ => rfl
    · exact ⟨mailbox, found, rfl⟩
  cases action with
  | create other => exact ⟨mailbox, by simp [step, found], rfl⟩
  | detach other =>
    have different : other ≠ id := fun same => others (congrArg _ same)
    exact ⟨mailbox, by simp [step, different, found], rfl⟩
  | receive other =>
    rw [step]
    split
    · exact changed _ fun mailbox => mailbox.take_spec.2.2
    · exact ⟨mailbox, found, rfl⟩
  | handle command =>
    rw [step]
    split
    · exact ⟨mailbox, found, rfl⟩
    cases command with
    | register other =>
      rw [handle]
      split
      · exact changed (·.setState .active) fun _ => rfl
      · exact ⟨mailbox, found, rfl⟩
    | unregister other =>
      rw [handle]
      split
      · exact closed
      · exact ⟨mailbox, found, rfl⟩
    | stop => exact closed
    | publish event =>
      rw [handle, publish]
      split
      · obtain ⟨after, present, same⟩ := changed (fun mailbox => (mailbox.offer view.capacity event).2)
          fun mailbox => mailbox.isAttached_offer view.capacity event
        have removed (state : State) := congrArg (Option.map (Mailbox.setState state)) present
        cases view.outcome event with
        | accepted => exact ⟨after, present, same⟩
        | full => exact ⟨after.setState .evicted, removed .evicted, same⟩
        | readerGone => exact ⟨after.setState .unregistered, removed .unregistered, same⟩
      · exact ⟨mailbox, found, rfl⟩

theorem Faithful.not_live_of_absent {view : View} {obtained : List Event} {tenure : Tenure}
    (faithful : Faithful view obtained tenure) (absent : view.mailbox = none) :
    view.isLive = false := by
  cases faithful with
  | ahead idle untouched => exact idle
  | during live running found active complete => cases absent.symm.trans found
  | past gone found terminal complete => exact gone

/-- A subscription that has been registered. Its reader has obtained some events, and some were
delivered to it. -/
structure Standing (buffer : Nat) (view : View) (obtained delivered : List Event) (tenure : Tenure) :
    Prop where
  capacity : view.capacity = max 1 buffer
  faithful : Faithful view obtained tenure
  begun : tenure ≠ .ahead
  delivered : tenure.events = delivered

namespace Standing

variable {buffer : Nat} {view : View} {obtained delivered : List Event} {tenure : Tenure}

theorem step (standing : Standing buffer view obtained delivered tenure) (id : Id) (action : Action) :
    Standing buffer (view.step id action) (obtained ++ view.yield id action)
      (delivered ++ view.arrival action) (tenure.next buffer id view action) where
  capacity := (view.step_capacity id action).trans standing.capacity
  faithful := standing.faithful.step standing.capacity action
  begun := fun ahead => standing.begun ((tenure.next_eq_ahead buffer id view action).mp ahead).1
  delivered := by rw [standing.faithful.events_next standing.capacity, standing.delivered]

theorem ended_of_not_live (standing : Standing buffer view obtained delivered tenure)
    (out : view.isLive = false) : ∃ state, tenure = .past state delivered := by
  have closed : tenure.isOpen = false := standing.faithful.isLive_eq.symm.trans out
  cases tenure with
  | ahead => exact absurd rfl standing.begun
  | during events => cases closed
  | past state events => exact ⟨state, congrArg (Tenure.past state) standing.delivered⟩

/-- Once a subscription is live no longer, it stays so. -/
theorem stays_out (standing : Standing buffer view obtained delivered tenure)
    (out : view.isLive = false) (id : Id) (action : Action) :
    (view.step id action).isLive = false := by
  obtain ⟨state, rfl⟩ := standing.ended_of_not_live out
  exact (standing.step id action).faithful.isLive_eq

/-- Nothing is delivered to a subscription that is not live. -/
theorem arrival_eq_nil (standing : Standing buffer view obtained delivered tenure)
    (out : view.isLive = false) (id : Id) (action : Action) : view.arrival action = [] := by
  obtain ⟨state, rfl⟩ := standing.ended_of_not_live out
  exact List.self_eq_append_right.mp (standing.step id action).delivered

theorem not_live_of_hasEnded (standing : Standing buffer view obtained delivered tenure)
    (ended : view.hasEnded = true) : view.isLive = false := by
  cases standing.faithful with
  | ahead idle untouched => exact idle
  | during live running found active complete => cases running.symm.trans ended
  | past gone found terminal complete => exact gone

theorem start {buffer : Nat} {id : Id} {past : List Action} {loop : Loop}
    (reached : loop = (Loop.start buffer).run past) (running : loop.hasEnded = false)
    (unmade : loop.mailbox? id = none) :
    let after := (loop.step (.create id)).step (.handle (.register id))
    Standing buffer (after.view id) [] [] (.during []) ∧
      ∃ mailbox, after.mailbox? id = some mailbox ∧ mailbox.isAttached = true := by
  have absent : (loop.view id).mailbox = none := unmade
  have capacity : (loop.view id).capacity = max 1 buffer := by
    have kept := Story.capacity_of buffer id past
    rwa [Story.of_loop, ← reached] at kept
  have ahead : Faithful (loop.view id) [] .ahead := by
    have faithful := Story.faithful buffer id past
    rw [Story.of_loop, ← reached] at faithful
    exact .ahead (faithful.not_live_of_absent absent) (by simp [absent])
  let fresh : View := { loop.view id with mailbox := some .new }
  have created : (loop.step (.create id)).view id = fresh := by
    simp [Loop.view_step, View.step, absent, fresh]
  have made : Faithful fresh [] .ahead := ahead.create absent
  have began : Tenure.next .ahead buffer id fresh (.handle (.register id)) = .during [] := by
    simp [Tenure.next, View.isRegistered, Mailbox.new, Loop.view, running, fresh]
  have registered : Faithful (fresh.step id (.handle (.register id))) [] (.during []) := by
    rw [← began]
    exact made.step capacity (.handle (.register id))
  have present : fresh.mailbox = some .new := rfl
  intro after
  have viewed : after.view id = fresh.step id (.handle (.register id)) := by
    rw [Loop.view_step, created]
  constructor
  · rw [viewed]
    exact ⟨(fresh.step_capacity id _).trans capacity, registered, by simp, rfl⟩
  · obtain ⟨mailbox, found, attached⟩ := View.isAttached_step present
      (show Action.handle (.register id) ≠ .detach id by simp)
    rw [← viewed] at found
    exact ⟨mailbox, found, attached⟩

/-- A subscription that the loop has been asked to remove is live no longer. -/
theorem not_live_of_unregister (standing : Standing buffer view obtained delivered tenure) (id : Id) :
    (view.step id (.handle (.unregister id))).isLive = false := by
  by_cases ended : view.hasEnded = true
  · rw [View.step, if_pos ended]
    exact standing.not_live_of_hasEnded ended
  · simp only [View.step, ended, View.handle, View.close, if_true, if_false, Bool.false_eq_true]
    split
    · rfl
    · rename_i out
      simpa using out

end Standing

namespace Service

variable {service : Service} {id : Id}

/-- What is found in a queue is what the reader obtains there. -/
theorem receive_view (service : Service) (id : Id) :
    (service.receive id).2.loop.view id = (service.loop.view id).step id (.receive id) ∧
      (service.loop.view id).yield id (.receive id) =
        match (service.receive id).1 with
        | .event event => [event]
        | _ => [] := by
  rw [← Loop.view_step, Loop.step, Loop.view_alter, if_pos rfl]
  simp only [View.yield, if_true]
  unfold receive
  cases found : service.loop.mailbox? id with
  | none => simp [Loop.view, View.change, found]
  | some mailbox =>
    cases queued : mailbox.queue with
    | nil =>
      simp only [Mailbox.take, queued]
      by_cases live : id ∈ service.loop.live
      · simp [Loop.view, View.change, found, queued, live]
      · simp [Loop.view, View.change, found, queued, live]
    | cons event rest =>
      simp only [Mailbox.take, queued]
      rw [Loop.view_alter, if_pos rfl]
      simp [Loop.view, View.change, found, queued]

theorem arrived_receive (service : Service) (id : Id) :
    Loop.arrived service.loop (service.receive id).2.loop id = [] := by
  have taken := (service.loop.view id).queue_step id (.receive id)
  rw [← (service.receive_view id).1] at taken
  exact taken

/-- A queue found closed is empty, and its subscription is not live. -/
theorem receive_closed (closed : (service.receive id).1 = .closed) :
    (∀ mailbox, service.loop.mailbox? id = some mailbox → mailbox.queue = []) ∧
      (service.loop.mailbox? id ≠ none → id ∉ service.loop.live) := by
  unfold receive at closed
  cases found : service.loop.mailbox? id with
  | none => simp
  | some mailbox =>
    rw [found] at closed
    cases queued : mailbox.queue with
    | cons event rest => simp [Mailbox.take, queued] at closed
    | nil =>
      simp only [Mailbox.take, queued] at closed
      split at closed
      · cases closed
      · rename_i out
        simp [queued, out]

theorem unregister_loop (service : Service) (id : Id) :
    (service.unregister id).2.1 =
      if service.isRunning then { service with loop := service.loop.step (.handle (.unregister id)) }
      else service := by
  unfold unregister submit
  split
  · rfl
  · rfl

theorem publish_loop (running : service.isRunning = true) (event : Event) :
    (service.publish event).2.1 =
      { service with loop := service.loop.step (.handle (.publish event)) } := by
  rw [publish, submit, if_pos running]
  rfl

theorem isRunning_unregister (service : Service) (id : Id) :
    (service.unregister id).2.1.isRunning = service.isRunning := by
  rw [unregister_loop]
  split
  · rfl
  · rfl

/-- A subscription that is new to a loop which has not ended is made and registered in two actions. -/
theorem subscribe_loop (unmade : service.loop.mailbox? service.nextId = none)
    (serving : service.isRunning = true) :
    service.subscribe.1 = .ok service.nextId ∧
      service.subscribe.2.1.loop = (service.loop.step (.create service.nextId)).step
        (.handle (.register service.nextId)) := by
  have made := service.loop.mailbox?_create service.nextId service.nextId unmade
  rw [if_pos rfl] at made
  have fresh : (service.loop.create service.nextId).isFresh service.nextId = true := by
    simp [Loop.isFresh, made, Mailbox.new]
  constructor
  · simp [subscribe, serving]
  · simp [subscribe, serving, Loop.step, unmade, Loop.admits, fresh]

end Service

namespace Standing

variable {buffer : Nat} {service : Service} {id : Id} {obtained delivered : List Event}
  {tenure : Tenure}

/-- A reader that goes away has obtained what it has obtained. -/
theorem detach (standing : Standing buffer (service.loop.view id) obtained delivered tenure) :
    Standing buffer ((service.detach id).loop.view id) obtained delivered tenure := by
  have gone := standing.step id (.detach id)
  rw [← Loop.view_step, tenure.next_of_private (by simp)] at gone
  simp only [View.yield, View.arrival, List.append_nil] at gone
  exact gone

/-- A reader that gives its subscription up leaves it not live, if the hub still takes commands. -/
theorem giveUp (standing : Standing buffer (service.loop.view id) obtained delivered tenure) :
    ∃ tenure, Standing buffer (((service.unregister id).2.1.detach id).loop.view id) obtained delivered
        tenure ∧
      ((service.loop.view id).isLive = false ∨ service.isRunning = true →
        (((service.unregister id).2.1.detach id).loop.view id).isLive = false) := by
  rw [Service.unregister_loop]
  split
  · have unregistered := standing.step id (.handle (.unregister id))
    have out := standing.not_live_of_unregister id
    rw [← Loop.view_step] at unregistered out
    simp only [View.yield, View.arrival, List.append_nil] at unregistered
    have detached := @detach buffer { service with loop := service.loop.step _ } _ _ _ _ unregistered
    exact ⟨_, detached, fun _ => out⟩
  · rename_i stopped
    exact ⟨_, standing.detach, fun either => either.resolve_right stopped⟩

end Standing

/-- A reader that has gone away leaves an empty queue, in which nothing has arrived. -/
theorem Service.arrived_detach (service : Service) (before : Loop) (id : Id) :
    Loop.arrived before (service.detach id).loop id = [] := by
  have emptied : (service.detach id).loop.mailbox? id =
      (service.loop.mailbox? id).map Mailbox.detach := by
    rw [detach, Loop.mailbox?_alter, if_pos rfl]
  cases found : service.loop.mailbox? id <;>
    simp [Loop.arrived, Loop.queue, emptied, found, Mailbox.detach]

end Dashboard.Hub
