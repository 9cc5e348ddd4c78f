import Dashboard.Proofs.Hub.View

namespace Dashboard.Hub

/-- What an action hands to the reader of a subscription. -/
def View.yield (view : View) (id : Id) : Action → List Event
  | .receive other => if other = id then (view.mailbox.bind (·.take.1)).toList else []
  | _ => []

/-- Whether an action is the registration of the subscription, handled by the loop. -/
def View.isRegistered (view : View) (id : Id) : Action → Bool
  | .handle (.register other) =>
    other = id && view.mailbox.any (·.state = .registered) && !view.hasEnded
  | _ => false

/-- The state in which an action ends a live subscription: its unregistration, the end of the loop,
an event for which no reader is left, or an event that finds the queue full of unread ones. -/
def Mailbox.removal? (mailbox : Mailbox) (buffer : Nat) (id : Id) : Action → Option State
  | .handle (.unregister other) => if other = id then some .unregistered else none
  | .handle .stop => some .unregistered
  | .handle (.publish _) =>
    if !mailbox.isAttached then some .unregistered
    else if max 1 buffer ≤ mailbox.queue.length then some .evicted
    else none
  | _ => none

def Action.published? : Action → Option Event
  | .handle (.publish event) => some event
  | _ => none

/-- The part of a subscription in the fan-out: none before it is registered, then the events that are
published, and from its removal on those published so far. -/
inductive Tenure where
  | ahead
  | during (events : List Event)
  | past (state : State) (events : List Event)

namespace Tenure

def events : Tenure → List Event
  | ahead => []
  | during events => events
  | past _ events => events

def isOpen : Tenure → Bool
  | during _ => true
  | _ => false

/-- The state in which the subscription was removed. -/
def ending? : Tenure → Option State
  | past state _ => some state
  | _ => none

/-- The part after one more action on a hub with the given view. -/
def next (tenure : Tenure) (buffer : Nat) (id : Id) (view : View) (action : Action) : Tenure :=
  match tenure with
  | ahead => if view.isRegistered id action then during [] else ahead
  | during events =>
    match view.mailbox.bind (·.removal? buffer id action) with
    | some state => past state events
    | none => during (events ++ action.published?.toList)
  | past state events => past state events

end Tenure

/-- A run of a hub, with what the reader of one subscription has obtained and the part of the
subscription in the fan-out. -/
structure Story where
  loop : Loop
  obtained : List Event
  tenure : Tenure

namespace Story

def start (buffer : Nat) : Story := ⟨.start buffer, [], .ahead⟩

def next (buffer : Nat) (id : Id) (story : Story) (action : Action) : Story :=
  ⟨story.loop.step action, story.obtained ++ (story.loop.view id).yield id action,
    story.tenure.next buffer id (story.loop.view id) action⟩

/-- The story of the subscription with the given number. -/
def of (buffer : Nat) (id : Id) (actions : List Action) : Story :=
  actions.foldl (next buffer id) (start buffer)

theorem of_loop (buffer : Nat) (id : Id) (actions : List Action) :
    (of buffer id actions).loop = (Loop.start buffer).run actions := by
  have general (story : Story) :
      (actions.foldl (next buffer id) story).loop = story.loop.run actions := by
    induction actions generalizing story with
    | nil => rfl
    | cons action rest inductionHypothesis => exact inductionHypothesis (story.next buffer id action)
  exact general (start buffer)

theorem of_append (buffer : Nat) (id : Id) (actions : List Action) (action : Action) :
    of buffer id (actions ++ [action]) = (of buffer id actions).next buffer id action := by
  simp [of]

end Story

/-- How the view of a subscription, what its reader has obtained and its part in the fan-out belong
together. -/
inductive Faithful : View → List Event → Tenure → Prop where
  | ahead {view : View} (idle : view.isLive = false)
      (untouched : ∀ mailbox, view.mailbox = some mailbox →
        mailbox.state = .registered ∧ mailbox.queue = []) :
      Faithful view [] .ahead
  | during {view : View} {mailbox : Mailbox} {obtained events : List Event}
      (live : view.isLive = true) (running : view.hasEnded = false)
      (found : view.mailbox = some mailbox) (active : mailbox.state = .active)
      (complete : mailbox.isAttached = true → obtained ++ mailbox.queue = events) :
      Faithful view obtained (.during events)
  | past {view : View} {mailbox : Mailbox} {obtained events : List Event}
      (gone : view.isLive = false) (found : view.mailbox = some mailbox)
      (terminal : mailbox.state.isTerminal = true)
      (complete : mailbox.isAttached = true → obtained ++ mailbox.queue = events) :
      Faithful view obtained (.past mailbox.state events)

/-- Only the loop begins or ends the part of a subscription. -/
theorem Tenure.next_of_private (tenure : Tenure) {buffer : Nat} {id : Id} {view : View}
    {action : Action} (outside : ∀ command, action ≠ .handle command) :
    tenure.next buffer id view action = tenure := by
  cases action with
  | handle command => exact absurd rfl (outside command)
  | create other | receive other | detach other =>
    cases tenure with
    | ahead => rfl
    | during events =>
      cases found : view.mailbox <;> simp [next, found, Mailbox.removal?, Action.published?]
    | past state events => rfl

/-- A subscription is ahead of its part until it is registered. -/
theorem Tenure.next_eq_ahead (tenure : Tenure) (buffer : Nat) (id : Id) (view : View)
    (action : Action) :
    tenure.next buffer id view action = .ahead ↔
      tenure = .ahead ∧ ¬view.isRegistered id action = true := by
  cases tenure with
  | ahead =>
    by_cases registered : view.isRegistered id action = true
    · simp [next, registered]
    · simp [next, registered]
  | during events =>
    cases found : view.mailbox.bind (·.removal? buffer id action) <;> simp [next, found]
  | past state events => simp [next]

namespace Faithful

variable {buffer : Nat} {id : Id} {view : View} {obtained events : List Event} {tenure : Tenure}

theorem receive (faithful : Faithful view obtained tenure) :
    Faithful (view.change fun mailbox => mailbox.take.2)
      (obtained ++ (view.mailbox.bind (·.take.1)).toList) tenure := by
  cases faithful with
  | ahead idle untouched =>
    cases found : view.mailbox with
    | none =>
      refine .ahead idle ?_
      simp [View.change, found]
    | some mailbox =>
      obtain ⟨fresh, noEvents⟩ := untouched mailbox found
      have nothing : mailbox.take = (none, mailbox) := by simp [Mailbox.take, noEvents]
      simp only [Option.bind_some, nothing, Option.toList_none, List.append_nil]
      refine .ahead idle ?_
      simp [View.change, found, nothing, fresh, noEvents]
  | @during mailbox _ events live running found active complete =>
    obtain ⟨queued, sameState, sameEnd⟩ := mailbox.take_spec
    refine .during live running (by simp [View.change, found]) (sameState.trans active) ?_
    intro attached
    rw [found, Option.bind_some, List.append_assoc, queued]
    exact complete (sameEnd.symm.trans attached)
  | @past mailbox _ events gone found terminal complete =>
    obtain ⟨queued, sameState, sameEnd⟩ := mailbox.take_spec
    rw [← sameState]
    refine .past gone (by simp [View.change, found]) (by rw [sameState]; exact terminal) ?_
    intro attached
    rw [found, Option.bind_some, List.append_assoc, queued]
    exact complete (sameEnd.symm.trans attached)

/-- The reader goes away, after which nothing is promised about what it has obtained. -/
theorem detach (faithful : Faithful view obtained tenure) :
    Faithful (view.change Mailbox.detach) obtained tenure := by
  cases faithful with
  | ahead idle untouched =>
    refine .ahead idle ?_
    cases found : view.mailbox with
    | none => simp [View.change, found]
    | some mailbox => simp [View.change, found, Mailbox.detach, (untouched mailbox found).1]
  | @during mailbox _ events live running found active complete =>
    have detached : (view.change Mailbox.detach).mailbox = some mailbox.detach := by
      simp [View.change, found]
    exact .during live running detached active fun attached => by cases attached
  | @past mailbox _ events gone found terminal complete =>
    have detached : (view.change Mailbox.detach).mailbox = some mailbox.detach := by
      simp [View.change, found]
    have kept : Faithful (view.change Mailbox.detach) obtained (.past mailbox.detach.state events) :=
      .past gone detached terminal fun attached => by cases attached
    exact kept

/-- A live subscription is removed and keeps what is queued. -/
theorem remove (faithful : Faithful view obtained (.during events)) (state : State)
    (terminal : state.isTerminal = true) :
    Faithful (view.remove state) obtained (.past state events) := by
  cases faithful with
  | @during mailbox _ _ live running found active complete =>
    have ended : (view.remove state).mailbox = some (mailbox.setState state) := by
      simp [View.remove, View.change, found]
    exact .past rfl ended terminal complete

theorem create (faithful : Faithful view obtained tenure) (absent : view.mailbox = none) :
    Faithful { view with mailbox := some .new } obtained tenure := by
  cases faithful with
  | ahead idle untouched =>
    refine .ahead idle fun mailbox found => ?_
    obtain rfl := Option.some.inj found
    exact ⟨rfl, rfl⟩
  | during live running found active complete => cases absent.symm.trans found
  | past gone found terminal complete => cases absent.symm.trans found

/-- The loop ends, which only removes those that are still live. -/
theorem stop (faithful : Faithful view obtained tenure) (closed : tenure.isOpen = false) :
    Faithful { view with hasEnded := true } obtained tenure := by
  cases faithful with
  | ahead idle untouched => exact .ahead idle untouched
  | during => cases closed
  | past gone found terminal complete => exact .past gone found terminal complete

private theorem publish (faithful : Faithful view obtained (.during events))
    (capacity : view.capacity = max 1 buffer) (event : Event) :
    Faithful (view.publish event) obtained
      ((Tenure.during events).next buffer id view (.handle (.publish event))) := by
  have removed (state : State) := faithful.remove state
  cases faithful with
  | @during mailbox _ _ live running found active complete =>
    rw [View.publish_of_live event live found]
    simp only [Tenure.next, found, Option.bind_some, Mailbox.removal?, capacity]
    by_cases attached : mailbox.isAttached = true
    · by_cases full : max 1 buffer ≤ mailbox.queue.length
      · simpa [attached, full] using removed .evicted rfl
      · have taken : obtained ++ (mailbox.queue ++ [event]) = events ++ [event] := by
          rw [← List.append_assoc, complete attached]
        have delivered : Faithful { view with mailbox := some { mailbox with
            queue := mailbox.queue ++ [event] } } obtained (.during (events ++ [event])) :=
          .during live running rfl active fun _ => taken
        simpa [attached, full, capacity, Action.published?] using delivered
    · simpa [attached] using removed .unregistered rfl

private theorem handle_ahead (faithful : Faithful view obtained .ahead)
    (running : view.hasEnded = false) (command : Command) :
    Faithful (view.handle id command) obtained
      (Tenure.next .ahead buffer id view (.handle command)) := by
  cases faithful with
  | ahead idle untouched =>
    have notLive : ¬view.isLive = true := by simp [idle]
    cases command with
    | register other =>
      by_cases starts : (other = id && view.mailbox.any (·.state = .registered)) = true
      · have begun : Tenure.next .ahead buffer id view (.handle (.register other)) = .during [] := by
          simp only [Tenure.next, View.isRegistered, running, starts, Bool.not_false, Bool.and_true,
            if_true]
        obtain ⟨mailbox, found, fresh⟩ : ∃ mailbox, view.mailbox = some mailbox ∧
            mailbox.state = .registered := by
          simpa [Option.any_eq_true] using (Bool.and_eq_true_iff.mp starts).2
        have activated : view.register.mailbox = some (mailbox.setState .active) := by
          simp [View.register, View.change, found]
        rw [View.handle, if_pos starts, begun]
        refine .during rfl running activated rfl fun _ => ?_
        exact (untouched mailbox found).2
      · have waiting : Tenure.next .ahead buffer id view (.handle (.register other)) = .ahead := by
          simp only [Tenure.next, View.isRegistered, starts, Bool.false_and, if_false,
            Bool.false_eq_true]
        rw [View.handle, if_neg starts, waiting]
        exact .ahead idle untouched
    | unregister other =>
      rw [View.handle, View.close, if_neg notLive, ite_self]
      exact .ahead idle untouched
    | publish event =>
      rw [View.handle, View.publish, if_neg notLive]
      exact .ahead idle untouched
    | stop =>
      rw [View.handle, View.stop, View.close, if_neg notLive]
      exact .ahead idle untouched

private theorem handle_during (faithful : Faithful view obtained (.during events))
    (capacity : view.capacity = max 1 buffer) (command : Command) :
    Faithful (view.handle id command) obtained
      (Tenure.next (.during events) buffer id view (.handle command)) := by
  have removed := faithful.remove .unregistered rfl
  cases command with
  | publish event => exact faithful.publish capacity event
  | register other =>
    cases faithful with
    | @during mailbox _ _ live running found active complete =>
      have stale : (other = id && view.mailbox.any (·.state = .registered)) = false := by
        simp [found, active]
      rw [View.handle, stale]
      simpa [Tenure.next, found, Mailbox.removal?, Action.published?] using
        Faithful.during live running found active complete
  | unregister other =>
    cases faithful with
    | @during mailbox _ _ live running found active complete =>
      by_cases same : other = id
      · simpa [View.handle, Tenure.next, found, Mailbox.removal?, same, View.close, live] using
          removed
      · simpa [View.handle, Tenure.next, found, Mailbox.removal?, Action.published?, same] using
          Faithful.during live running found active complete
  | stop =>
    cases faithful with
    | @during mailbox _ _ live running found active complete =>
      simpa [View.handle, View.stop, Tenure.next, found, Mailbox.removal?, View.close, live] using
        removed.stop rfl

private theorem handle_past {state : State} (faithful : Faithful view obtained (.past state events))
    (command : Command) : Faithful (view.handle id command) obtained (.past state events) := by
  have kept := faithful
  cases faithful with
  | @past mailbox _ _ gone found terminal complete =>
    have notLive : ¬view.isLive = true := by simp [gone]
    cases command with
    | register other =>
      have stale : (other = id && view.mailbox.any (·.state = .registered)) = false := by
        have notFresh : mailbox.state ≠ .registered := by
          intro fresh
          rw [fresh] at terminal
          cases terminal
        simp [found, notFresh]
      rw [View.handle, stale]
      exact kept
    | unregister other =>
      rw [View.handle, View.close, if_neg notLive, ite_self]
      exact kept
    | publish event =>
      rw [View.handle, View.publish, if_neg notLive]
      exact kept
    | stop =>
      rw [View.handle, View.stop, View.close, if_neg notLive]
      exact kept.stop rfl

private theorem handle_ended (faithful : Faithful view obtained tenure)
    (ended : view.hasEnded = true) (command : Command) :
    Faithful view obtained (tenure.next buffer id view (.handle command)) := by
  have kept := faithful
  cases faithful with
  | ahead idle untouched =>
    have waiting : View.isRegistered view id (.handle command) = false := by
      cases command <;> simp [View.isRegistered, ended]
    rw [Tenure.next, waiting]
    exact kept
  | during live running found active complete => cases running.symm.trans ended
  | past gone found terminal complete => exact kept

/-- Every action keeps view, obtained events and part in the fan-out together. -/
theorem step (faithful : Faithful view obtained tenure) (capacity : view.capacity = max 1 buffer)
    (action : Action) :
    Faithful (view.step id action) (obtained ++ view.yield id action)
      (tenure.next buffer id view action) := by
  cases action with
  | create other =>
    rw [Tenure.next_of_private _ (by simp)]
    simp only [View.yield, List.append_nil, View.step]
    by_cases made : (other = id && view.mailbox.isNone) = true
    · rw [if_pos made]
      have absent : view.mailbox = none := by simpa using (Bool.and_eq_true_iff.mp made).2
      exact faithful.create absent
    · rw [if_neg made]
      exact faithful
  | handle command =>
    simp only [View.yield, List.append_nil, View.step]
    by_cases ended : view.hasEnded = true
    · rw [if_pos ended]
      exact faithful.handle_ended ended command
    · rw [if_neg ended]
      cases tenure with
      | ahead => exact faithful.handle_ahead (by simpa using ended) command
      | during events => exact faithful.handle_during capacity command
      | past state events => exact faithful.handle_past command
  | receive other =>
    rw [Tenure.next_of_private _ (by simp)]
    by_cases same : other = id
    · simpa [View.step, View.yield, same] using faithful.receive
    · simpa [View.step, View.yield, same] using faithful
  | detach other =>
    rw [Tenure.next_of_private _ (by simp)]
    by_cases same : other = id
    · simpa [View.step, View.yield, same] using faithful.detach
    · simpa [View.step, View.yield, same] using faithful

theorem append_queue (faithful : Faithful view obtained tenure) {mailbox : Mailbox}
    (found : view.mailbox = some mailbox) (attached : mailbox.isAttached = true) :
    obtained ++ mailbox.queue = tenure.events := by
  cases faithful with
  | ahead idle untouched => rw [(untouched mailbox found).2, List.append_nil]; rfl
  | during live running same active complete =>
    obtain rfl := Option.some.inj (found.symm.trans same)
    exact complete attached
  | past gone same terminal complete =>
    obtain rfl := Option.some.inj (found.symm.trans same)
    exact complete attached

theorem isLive_eq (faithful : Faithful view obtained tenure) : view.isLive = tenure.isOpen := by
  cases faithful with
  | ahead idle untouched => exact idle
  | during live running found active complete => exact live
  | past gone found terminal complete => exact gone

theorem ending_state (faithful : Faithful view obtained tenure) {state : State}
    (ended : tenure.ending? = some state) : view.mailbox.map Mailbox.state = some state := by
  cases faithful with
  | ahead | during => cases ended
  | past gone found terminal complete =>
    rw [found]
    exact ended

end Faithful

/-- What does not concern a subscription is not part of its story. -/
theorem View.yield_of_not_concerns (view : View) {id : Id} {action : Action}
    (unconcerned : action.concerns id = false) : view.yield id action = [] := by
  cases action with
  | receive other =>
    have different : other ≠ id := by simpa [Action.concerns] using unconcerned
    simp [yield, different]
  | create other | handle command | detach other => rfl

theorem Tenure.next_of_not_concerns (tenure : Tenure) {buffer : Nat} {id : Id} {view : View}
    {action : Action} (unconcerned : action.concerns id = false) :
    tenure.next buffer id view action = tenure := by
  cases action with
  | create other | receive other | detach other => exact tenure.next_of_private (by simp)
  | handle command =>
    cases command with
    | register other | unregister other =>
      have different : other ≠ id := by simpa [Action.concerns] using unconcerned
      cases tenure with
      | ahead => simp [next, View.isRegistered, different]
      | during events =>
        cases found : view.mailbox <;>
          simp [next, found, Mailbox.removal?, Action.published?, different]
      | past state events => rfl
    | publish event => cases unconcerned
    | stop => cases unconcerned

namespace Story

variable {buffer : Nat} {id : Id}

/-- Two stories in which the subscription fares alike; the rest of the hub may differ. -/
structure Alike (id : Id) (first second : Story) : Prop where
  view : first.loop.view id = second.loop.view id
  obtained : first.obtained = second.obtained
  tenure : first.tenure = second.tenure

theorem Alike.next {first second : Story} (alike : Alike id first second) (action : Action) :
    Alike id (first.next buffer id action) (second.next buffer id action) where
  view := by simp only [Story.next, Loop.view_step, alike.view]
  obtained := by simp only [Story.next, alike.view, alike.obtained]
  tenure := by simp only [Story.next, alike.view, alike.tenure]

theorem Alike.next_of_not_concerns {first second : Story} (alike : Alike id first second)
    {action : Action} (unconcerned : action.concerns id = false) :
    Alike id (first.next buffer id action) second where
  view := by rw [Story.next, Loop.view_step, View.step_of_not_concerns _ unconcerned, alike.view]
  obtained := by
    rw [Story.next, View.yield_of_not_concerns _ unconcerned, List.append_nil, alike.obtained]
  tenure := by rw [Story.next, Tenure.next_of_not_concerns _ unconcerned, alike.tenure]

/-- A story depends on the actions that concern its subscription, and on no others. -/
theorem Alike.foldl_filter {first second : Story} (alike : Alike id first second)
    (actions : List Action) :
    Alike id (actions.foldl (Story.next buffer id) first)
      ((actions.filter (·.concerns id)).foldl (Story.next buffer id) second) := by
  induction actions generalizing first second with
  | nil => exact alike
  | cons action rest inductionHypothesis =>
    by_cases concerned : action.concerns id = true
    · rw [List.filter_cons_of_pos concerned]
      exact inductionHypothesis (alike.next action)
    · rw [List.filter_cons_of_neg concerned]
      exact inductionHypothesis (alike.next_of_not_concerns (by simpa using concerned))

theorem alike_of_filter_eq {actions others : List Action}
    (same : others.filter (·.concerns id) = actions.filter (·.concerns id)) :
    Alike id (of buffer id others) (of buffer id actions) := by
  have start : Alike id (start buffer) (start buffer) := ⟨rfl, rfl, rfl⟩
  have first : Alike id (of buffer id actions) _ := start.foldl_filter actions
  have second : Alike id (of buffer id others) _ := start.foldl_filter others
  rw [same] at second
  exact ⟨second.view.trans first.view.symm, second.obtained.trans first.obtained.symm,
    second.tenure.trans first.tenure.symm⟩

theorem faithful (buffer : Nat) (id : Id) (actions : List Action) :
    Faithful ((of buffer id actions).loop.view id) (of buffer id actions).obtained
      (of buffer id actions).tenure := by
  have general (story : Story) (capacity : (story.loop.view id).capacity = max 1 buffer)
      (kept : Faithful (story.loop.view id) story.obtained story.tenure) :
      Faithful ((actions.foldl (next buffer id) story).loop.view id)
        (actions.foldl (next buffer id) story).obtained
        (actions.foldl (next buffer id) story).tenure := by
    induction actions generalizing story with
    | nil => exact kept
    | cons action rest inductionHypothesis =>
      apply inductionHypothesis (story.next buffer id action)
      · rw [next, Loop.view_step, View.step_capacity, capacity]
      · rw [next, Loop.view_step]
        exact kept.step capacity action
  apply general (start buffer)
  · exact Nat.max_comm buffer 1
  · exact .ahead rfl nofun

end Story

/-- Exact fan-out. In every run of a hub, and for every subscription: as long as the reader holds its
end, the events it has obtained, followed by those in its queue, are those published while the
subscription was live. It is live from its registration to its removal, whose reason its state tells.
Nothing of this depends on actions that do not concern the subscription. -/
theorem obtained_append_queue (buffer : Nat) (id : Id) (actions : List Action) :
    let story := Story.of buffer id actions
    story.loop = (Loop.start buffer).run actions ∧
      (∀ mailbox, story.loop.mailbox? id = some mailbox → mailbox.isAttached = true →
        story.obtained ++ mailbox.queue = story.tenure.events) ∧
      (id ∈ story.loop.live ↔ story.tenure.isOpen = true) ∧
      (∀ state, story.tenure.ending? = some state →
        (story.loop.mailbox? id).map Mailbox.state = some state) ∧
      ∀ others : List Action,
        others.filter (·.concerns id) = actions.filter (·.concerns id) →
          Story.Alike id (Story.of buffer id others) story := by
  intro story
  have kept : Faithful (story.loop.view id) story.obtained story.tenure :=
    Story.faithful buffer id actions
  refine ⟨Story.of_loop buffer id actions, ?complete, ?live, ?ending,
    fun _ => Story.alike_of_filter_eq⟩
  case complete =>
    intro mailbox found attached
    exact kept.append_queue found attached
  case live =>
    rw [← kept.isLive_eq]
    exact decide_eq_true_iff.symm
  case ending =>
    intro state ended
    exact kept.ending_state ended

/-- With queues of one event, a reader that takes its first event gets the second one too; one that
does not is removed and keeps the first. -/
theorem obtained_append_queue_slow_and_quick :
    let first : Event := ⟨.update .null, none, 0⟩
    let second : Event := ⟨.update (.bool true), none, 1⟩
    let actions : List Action :=
      [.create 1, .handle (.register 1), .create 2, .handle (.register 2), .handle (.publish first),
        .receive 2, .handle (.publish second)]
    (Story.of 1 2 actions).obtained ++ [second] = [first, second] ∧
      (Story.of 1 1 actions).tenure = .past .evicted [first] ∧
      (Story.of 1 1 actions).loop.live = [2] := by
  intro first second actions
  obtain ⟨_, complete, _⟩ := obtained_append_queue 1 2 actions
  exact ⟨complete ⟨.active, [second], true⟩ rfl rfl, rfl, rfl⟩

end Dashboard.Hub
