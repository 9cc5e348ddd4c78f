import Dashboard.Proofs.Hub.Closing
import Dashboard.Proofs.Hub.Sequential
import Mathlib.Data.List.Nodup

/-! The life of a subscription. The list of the live ones, the state that a reader sees, the queue and
the end of it that the hub holds are changed in five places, and stay in step under every interleaving
of clients, readers and the loop. -/

namespace Dashboard.Hub

namespace Loop

variable {loop after last : Loop}

theorem ids_change (id : Id) (update : Mailbox → Mailbox) (mailboxes : List (Id × Mailbox)) :
    (change id update mailboxes).map Prod.fst = mailboxes.map Prod.fst := by
  rw [change, List.map_map]
  refine List.map_congr_left fun entry _ => ?_
  rw [Function.comp_apply]
  split
  · rename_i same
    exact same.symm
  · rfl

theorem ids_offerAll (loop : Loop) (event : Event) :
    (loop.offerAll event).map Prod.fst = loop.mailboxes.map Prod.fst := by
  rw [offerAll, List.map_map]
  refine List.map_congr_left fun entry _ => ?_
  rw [Function.comp_apply]
  split
  · rfl
  · rfl

/-- Subscriptions are at most removed from the live ones, and none is made. -/
structure Narrows (loop after : Loop) : Prop where
  live : after.live.Sublist loop.live
  made : after.mailboxes.map Prod.fst = loop.mailboxes.map Prod.fst

namespace Narrows

theorem refl (loop : Loop) : Narrows loop loop := ⟨List.Sublist.refl _, rfl⟩

theorem trans (first : Narrows loop after) (second : Narrows after last) : Narrows loop last :=
  ⟨second.live.trans first.live, second.made.trans first.made⟩

theorem alter (loop : Loop) (id : Id) (update : Mailbox → Mailbox) :
    Narrows loop (loop.alter id update) :=
  ⟨List.Sublist.refl _, ids_change id update loop.mailboxes⟩

theorem remove (loop : Loop) (id : Id) (state : State) : Narrows loop (loop.remove id state) :=
  ⟨List.filter_sublist, ids_change id _ loop.mailboxes⟩

theorem drop (loop : Loop) (event : Event) (id : Id) (outcome : Mailbox.Outcome) :
    Narrows loop (loop.drop event id outcome).1 := by
  cases outcome with
  | accepted => exact refl loop
  | full =>
    have removed := remove loop id .evicted
    exact ⟨removed.live, removed.made⟩
  | readerGone =>
    have removed := remove loop id .unregistered
    exact ⟨removed.live, removed.made⟩

theorem dropAll (event : Event) (outcomes : List (Id × Mailbox.Outcome)) (loop : Loop) :
    Narrows loop (Loop.dropAll event outcomes loop).1 := by
  induction outcomes generalizing loop with
  | nil => exact refl loop
  | cons entry rest inductionHypothesis =>
    obtain ⟨id, outcome⟩ := entry
    exact (drop loop event id outcome).trans (inductionHypothesis _)

theorem unregister (loop : Loop) (id : Id) : Narrows loop (loop.unregister id).1 := by
  rw [Loop.unregister]
  split
  · have removed := remove loop id .unregistered
    exact ⟨removed.live, removed.made⟩
  · exact refl loop

theorem publish (loop : Loop) (event : Event) : Narrows loop (loop.publish event).1 := by
  have dropped := dropAll event (loop.live.map fun id => (id, loop.outcome event id))
    { loop with
      mailboxes := loop.offerAll event
      counters := (loop.counters.publish).deliver
        ((loop.live.map fun id => (id, loop.outcome event id)).filter
          fun entry => entry.2 = .accepted).length }
  exact ⟨dropped.live, dropped.made.trans (ids_offerAll loop event)⟩

theorem stop (loop : Loop) : Narrows loop loop.stop.1 := by
  have closed (ids : List Id) (loop : Loop) : Narrows loop (ids.foldl (fun loop id =>
      { loop.remove id .unregistered with counters := loop.counters.unregister }) loop) := by
    induction ids generalizing loop with
    | nil => exact refl loop
    | cons id rest inductionHypothesis =>
      have removed := remove loop id .unregistered
      have first : Narrows loop
          { loop.remove id .unregistered with counters := loop.counters.unregister } :=
        ⟨removed.live, removed.made⟩
      exact first.trans (inductionHypothesis _)
  exact ⟨(closed loop.live loop).live, (closed loop.live loop).made⟩

end Narrows

/-- No subscription is listed twice, neither among the live ones nor among all. -/
structure IsTidy (loop : Loop) : Prop where
  live : loop.live.Nodup
  made : Association.Distinct loop.mailboxes

namespace IsTidy

theorem start (buffer : Nat) : IsTidy (Loop.start buffer) := ⟨List.nodup_nil, List.nodup_nil⟩

theorem narrow (tidy : IsTidy loop) (narrows : Narrows loop after) : IsTidy after where
  live := tidy.live.sublist narrows.live
  made := by
    rw [Association.Distinct, narrows.made]
    exact tidy.made

theorem create (tidy : IsTidy loop) {id : Id} (absent : loop.mailbox? id = none) :
    IsTidy (loop.create id) where
  live := tidy.live
  made := tidy.made.concat absent _

/-- A subscription that is registered takes the place of a live one of its number. -/
theorem register (tidy : IsTidy loop) (id : Id) : IsTidy (loop.register id).1 where
  live := by
    have others : (loop.live.filter (· ≠ id)).Nodup := tidy.live.filter _
    have absent : id ∉ loop.live.filter (· ≠ id) := by simp
    simpa [Loop.register] using List.Nodup.concat absent others
  made := by
    rw [Association.Distinct, Loop.register, ids_change]
    exact tidy.made

theorem handle (tidy : IsTidy loop) (command : Command) : IsTidy (loop.handle command).1 := by
  unfold Loop.handle
  split
  · exact tidy
  · cases command with
    | register id => exact tidy.register id
    | unregister id => exact tidy.narrow (.unregister loop id)
    | publish event => exact tidy.narrow (.publish loop event)
    | stop => exact tidy.narrow (.stop loop)

theorem step (tidy : IsTidy loop) (action : Action) : IsTidy (loop.step action) := by
  cases action with
  | create id =>
    rw [Loop.step]
    split
    · exact tidy
    · rename_i absent
      exact tidy.create (by simpa using absent)
  | handle command =>
    rw [Loop.step]
    split
    · exact tidy.handle command
    · exact tidy
  | receive id => exact tidy.narrow (.alter loop id _)
  | detach id => exact tidy.narrow (.alter loop id _)

theorem run (tidy : IsTidy loop) (actions : List Action) : IsTidy (loop.run actions) := by
  induction actions generalizing loop with
  | nil => exact tidy
  | cons action rest inductionHypothesis => exact inductionHypothesis (tidy.step action)

end IsTidy
end Loop

/-- The queue of the subscription does not hold more than there is room for. -/
def View.IsBounded (view : View) : Prop :=
  ∀ mailbox, view.mailbox = some mailbox → mailbox.queue.length ≤ view.capacity

theorem Mailbox.length_offer_le {capacity : Nat} {mailbox : Mailbox} (event : Event)
    (bounded : mailbox.queue.length ≤ capacity) :
    (mailbox.offer capacity event).2.queue.length ≤ capacity := by
  rw [offer]
  split
  · exact bounded
  · split
    · exact bounded
    · rename_i room
      rw [List.length_append, List.length_singleton]
      exact Nat.lt_of_not_le room

theorem Mailbox.length_take_le (mailbox : Mailbox) :
    mailbox.take.2.queue.length ≤ mailbox.queue.length := by
  have taken := congrArg List.length mailbox.take_spec.1
  rw [List.length_append] at taken
  exact taken ▸ Nat.le_add_left _ _

namespace View.IsBounded

variable {view : View}

theorem change (bounded : view.IsBounded) {update : Mailbox → Mailbox}
    (keeps : ∀ mailbox, mailbox.queue.length ≤ view.capacity →
      (update mailbox).queue.length ≤ view.capacity) : (view.change update).IsBounded := by
  intro mailbox found
  obtain ⟨earlier, present, rfl⟩ := Option.map_eq_some_iff.mp found
  exact keeps earlier (bounded earlier present)

theorem remove (bounded : view.IsBounded) (state : State) : (view.remove state).IsBounded :=
  bounded.change fun _ short => short

theorem close (bounded : view.IsBounded) (state : State) : (view.close state).IsBounded := by
  rw [View.close]
  split
  · exact bounded.remove state
  · exact bounded

theorem settle (bounded : view.IsBounded) (outcome : Mailbox.Outcome) :
    (view.settle outcome).IsBounded := by
  cases outcome with
  | accepted => exact bounded
  | full => exact bounded.remove .evicted
  | readerGone => exact bounded.remove .unregistered

theorem handle (bounded : view.IsBounded) (id : Id) (command : Command) :
    (view.handle id command).IsBounded := by
  cases command with
  | register other =>
    rw [View.handle]
    split
    · exact bounded.change fun _ short => short
    · exact bounded
  | unregister other =>
    rw [View.handle]
    split
    · exact bounded.close .unregistered
    · exact bounded
  | publish event =>
    rw [View.handle, View.publish]
    split
    · refine settle (bounded.change ?_) _
      exact fun mailbox short => Mailbox.length_offer_le event short
    · exact bounded
  | stop => exact bounded.close .unregistered

theorem step (bounded : view.IsBounded) (id : Id) (action : Action) :
    (view.step id action).IsBounded := by
  cases action with
  | create other =>
    rw [View.step]
    split
    · rintro mailbox ⟨⟩
      exact Nat.zero_le _
    · exact bounded
  | handle command =>
    rw [View.step]
    split
    · exact bounded
    · exact bounded.handle id command
  | receive other =>
    rw [View.step]
    split
    · exact bounded.change fun mailbox short => Nat.le_trans mailbox.length_take_le short
    · exact bounded
  | detach other =>
    rw [View.step]
    split
    · exact bounded.change fun _ _ => Nat.zero_le _
    · exact bounded

/-- The room is what the hub was started with, and no run of the loop exceeds it. -/
theorem run (buffer : Nat) (id : Id) (actions : List Action) :
    (((Loop.start buffer).run actions).view id).capacity = max 1 buffer ∧
      (((Loop.start buffer).run actions).view id).IsBounded := by
  have general (loop : Loop) (capacity : (loop.view id).capacity = max 1 buffer)
      (bounded : (loop.view id).IsBounded) :
      ((loop.run actions).view id).capacity = max 1 buffer ∧
        ((loop.run actions).view id).IsBounded := by
    induction actions generalizing loop with
    | nil => exact ⟨capacity, bounded⟩
    | cons action rest inductionHypothesis =>
      refine inductionHypothesis (loop.step action) ?_ ?_
      · rw [Loop.view_step, View.step_capacity, capacity]
      · rw [Loop.view_step]
        exact bounded.step id action
  refine general (Loop.start buffer) (Nat.max_comm buffer 1) ?_
  rintro mailbox ⟨⟩

end View.IsBounded

/-- Who is live after an event has been published holds its reading end, and the event is the newest
one in its queue. -/
theorem View.newest_of_publish {view : View} {mailbox : Mailbox} (event : Event)
    (found : view.mailbox = some mailbox) (live : (view.publish event).isLive = true) :
    ∃ mailbox, (view.publish event).mailbox = some mailbox ∧ mailbox.isAttached = true ∧
      mailbox.queue.getLast? = some event := by
  by_cases before : view.isLive = true
  · rw [View.publish_of_live event before found] at live ⊢
    by_cases attached : mailbox.isAttached = true
    · rw [if_pos attached] at live ⊢
      by_cases full : view.capacity ≤ mailbox.queue.length
      · rw [if_pos full] at live
        cases live
      · rw [if_neg full]
        exact ⟨_, rfl, attached, List.getLast?_concat⟩
    · rw [if_neg attached] at live
      cases live
  · rw [View.publish, if_neg before] at live
    exact absurd live before

theorem Story.tenure_of_past {buffer : Nat} {id : Id} {state : State} {events : List Event}
    {story : Story} (past : story.tenure = .past state events) (more : List Action) :
    (more.foldl (Story.next buffer id) story).tenure = .past state events := by
  induction more generalizing story with
  | nil => exact past
  | cons action rest inductionHypothesis =>
    refine inductionHypothesis ?_
    rw [Story.next, past]
    rfl

namespace Faithful

variable {view : View} {obtained : List Event} {tenure : Tenure} {mailbox : Mailbox}

theorem isLive_iff (faithful : Faithful view obtained tenure) :
    view.isLive = true ↔ ∃ mailbox, view.mailbox = some mailbox ∧ mailbox.state = .active := by
  cases faithful with
  | ahead idle untouched =>
    refine iff_of_false (by simp [idle]) ?_
    rintro ⟨mailbox, found, active⟩
    cases (untouched mailbox found).1.symm.trans active
  | during live running found active complete => exact iff_of_true live ⟨_, found, active⟩
  | past gone found terminal complete =>
    refine iff_of_false (by simp [gone]) ?_
    rintro ⟨mailbox, same, active⟩
    obtain rfl := Option.some.inj (found.symm.trans same)
    rw [active] at terminal
    cases terminal

theorem registered_iff (faithful : Faithful view obtained tenure) (found : view.mailbox = some mailbox) :
    mailbox.state = .registered ↔ tenure = .ahead := by
  cases faithful with
  | ahead idle untouched => exact iff_of_true (untouched mailbox found).1 rfl
  | during live running same active complete =>
    obtain rfl := Option.some.inj (found.symm.trans same)
    exact iff_of_false (by simp [active]) nofun
  | past gone same terminal complete =>
    obtain rfl := Option.some.inj (found.symm.trans same)
    refine iff_of_false (fun fresh => ?_) nofun
    rw [fresh] at terminal
    cases terminal

theorem past_of_isTerminal (faithful : Faithful view obtained tenure)
    (found : view.mailbox = some mailbox) (terminal : mailbox.state.isTerminal = true) :
    ∃ events, tenure = .past mailbox.state events := by
  cases faithful with
  | ahead idle untouched =>
    rw [(untouched mailbox found).1] at terminal
    cases terminal
  | during live running same active complete =>
    obtain rfl := Option.some.inj (found.symm.trans same)
    rw [active] at terminal
    cases terminal
  | past gone same complete =>
    obtain rfl := Option.some.inj (found.symm.trans same)
    exact ⟨_, rfl⟩

end Faithful

/-- Subscriptions are numbered in the order in which clients begin to subscribe. -/
structure Numbered (history : List Incident) (nextId : Id) : Prop where
  below : ∀ call ∈ calls history .began, ∀ id, call.command = .register id → id < nextId
  ascending : (calls history .began).Pairwise fun earlier later => ∀ first second,
    earlier.command = .register first → later.command = .register second → first < second

namespace Numbered

variable {history : List Incident} {nextId : Id} {call : Call}

/-- A call begins, which makes the next subscription or none. -/
theorem begin (numbered : Numbered history nextId) {last : Id} (goesOn : nextId ≤ last)
    (next : ∀ id, call.command = .register id → id = nextId ∧ nextId < last) :
    Numbered (history ++ [⟨.began, call⟩]) last where
  below own present id registers := by
    rcases mem_calls_append.mp present with earlier | ⟨-, rfl⟩
    · exact Nat.lt_of_lt_of_le (numbered.below own earlier id registers) goesOn
    · obtain ⟨rfl, used⟩ := next id registers
      exact used
  ascending := by
    rw [calls_append, if_pos rfl]
    refine List.pairwise_append.mpr ⟨numbered.ascending, List.pairwise_singleton _ _, ?_⟩
    intro earlier present later latest first second firstRegisters secondRegisters
    obtain rfl := List.mem_singleton.mp latest
    obtain ⟨rfl, -⟩ := next second secondRegisters
    exact numbered.below earlier present first firstRegisters

theorem note (numbered : Numbered history nextId) {occasion : Occasion} (call : Call)
    (later : occasion ≠ .began) : Numbered (history ++ [⟨occasion, call⟩]) nextId where
  below := by simpa [calls_append, later] using numbered.below
  ascending := by simpa [calls_append, later] using numbered.ascending

theorem transition {system after : System} (numbered : Numbered system.history system.nextId)
    (transition : System.Transition system after) : Numbered after.history after.nextId := by
  cases transition with
  | stay | turn | close | finishLoop | receive | detach => exact numbered
  | subscribe idle =>
    refine numbered.begin (Nat.le_succ _) ?_
    rintro id ⟨⟩
    exact ⟨rfl, Nat.lt_succ_self _⟩
  | call idle other => exact numbered.begin (Nat.le_refl _) fun id same => absurd same (other id)
  | enter stands isOpen => exact numbered.note _ nofun
  | @finish client call isOk stands =>
    obtain ⟨loop, finished⟩ := system.finish_eq client call isOk
    rw [finished]
    exact numbered.note call nofun
  | leave serving next isStop => exact numbered.note _ nofun
  | handle serving next isStop =>
    rw [System.acknowledge_eq]
    exact numbered.note _ nofun
  | discard draining next =>
    rw [System.acknowledge_eq]
    exact numbered.note _ nofun

theorem run (buffer inboxCapacity : Nat) (moves : List Move) :
    Numbered ((System.start buffer inboxCapacity).run moves).history
      ((System.start buffer inboxCapacity).run moves).nextId := by
  refine System.run_induction (fun system => Numbered system.history system.nextId) ?_
    (fun _ _ numbered transition => numbered.transition transition) moves
  exact ⟨fun _ present => (List.not_mem_nil present).elim, List.Pairwise.nil⟩

end Numbered

/-- What is true of subscriptions at every point of a run. -/
structure Lifecycle (buffer : Nat) (system : System) : Prop where
  live_nodup : system.loop.live.Nodup
  made_distinct : Association.Distinct system.loop.mailboxes
  live_iff : ∀ id, id ∈ system.loop.live ↔
    ∃ mailbox, system.loop.mailbox? id = some mailbox ∧ mailbox.state = .active
  /-- A subscription is in its first state until the loop has handled its registration. -/
  registered_iff : ∀ call ∈ calls system.history .began, ∀ id, call.command = .register id →
    ∃ mailbox, system.loop.mailbox? id = some mailbox ∧
      (mailbox.state = .registered ↔ call ∉ calls system.history .handled)
  /-- The reader of an empty queue is told whether the hub still holds the other end. -/
  received_of_empty : ∀ id mailbox, system.loop.mailbox? id = some mailbox →
    mailbox.queue = [] → mailbox.state ≠ .registered →
      (system.service.receive id).1 = if mailbox.state = .active then .pending else .closed
  queue_bounded : ∀ id mailbox, system.loop.mailbox? id = some mailbox →
    mailbox.queue.length ≤ max 1 buffer
  numbered : Numbered system.history system.nextId
  /-- A state that ends the life of a subscription is its last one. -/
  terminal_forever : ∀ id mailbox, system.loop.mailbox? id = some mailbox →
    mailbox.state.isTerminal = true → ∀ more, id ∉ (system.run more).loop.live ∧
      ∃ last, (system.run more).loop.mailbox? id = some last ∧ last.state = mailbox.state
  /-- An event that the loop has just handled has reached whoever is still live. -/
  newest_published : ∀ call rest event, system.phase = .serving → system.inbox = call :: rest →
    call.command = .publish event → ∀ id ∈ (system.step .serve).loop.live,
      ∃ mailbox, (system.step .serve).loop.mailbox? id = some mailbox ∧
        mailbox.isAttached = true ∧ mailbox.queue.getLast? = some event

namespace Linked

variable {buffer : Nat} {actions : List Action} {system : System}

theorem live_iff (linked : Linked buffer actions system) (id : Id) :
    id ∈ system.loop.live ↔
      ∃ mailbox, system.loop.mailbox? id = some mailbox ∧ mailbox.state = .active := by
  obtain ⟨obtained, faithful⟩ := linked.faithful id
  exact decide_eq_true_iff.symm.trans faithful.isLive_iff

theorem registered_iff (linked : Linked buffer actions system) {call : Call}
    (began : call ∈ calls system.history .began) {id : Id} (registers : call.command = .register id) :
    ∃ mailbox, system.loop.mailbox? id = some mailbox ∧
      (mailbox.state = .registered ↔ call ∉ calls system.history .handled) := by
  obtain ⟨obtained, faithful⟩ := linked.faithful id
  obtain ⟨mailbox, found⟩ := Option.ne_none_iff_exists'.mp (linked.made call began id registers)
  exact ⟨mailbox, found, (faithful.registered_iff found).trans (linked.ahead call began id registers)⟩

theorem received_of_empty (linked : Linked buffer actions system) {id : Id} {mailbox : Mailbox}
    (found : system.loop.mailbox? id = some mailbox) (empty : mailbox.queue = []) :
    (system.service.receive id).1 = if mailbox.state = .active then .pending else .closed := by
  have nothing : mailbox.take = (none, mailbox) := by simp [Mailbox.take, empty]
  have live : id ∈ system.loop.live ↔ mailbox.state = .active := by
    rw [linked.live_iff id, found]
    simp
  simp only [Service.receive, System.service, found, nothing, live]

theorem terminal_forever (linked : Linked buffer actions system) (sound : Sound system) {id : Id}
    {mailbox : Mailbox} (found : system.loop.mailbox? id = some mailbox)
    (terminal : mailbox.state.isTerminal = true) (moves : List Move) :
    id ∉ (system.run moves).loop.live ∧
      ∃ last, (system.run moves).loop.mailbox? id = some last ∧ last.state = mailbox.state := by
  obtain ⟨obtained, faithful⟩ := linked.faithful id
  obtain ⟨events, past⟩ := faithful.past_of_isTerminal found terminal
  obtain ⟨more, later⟩ := linked.run sound moves
  obtain ⟨_, faithfulLater⟩ := later.faithful id
  have pastLater : (Story.of buffer id (actions ++ more)).tenure = .past mailbox.state events := by
    rw [Story.of, List.foldl_append]
    exact Story.tenure_of_past past more
  rw [pastLater] at faithfulLater
  constructor
  · intro live
    have stillOpen := faithfulLater.isLive_eq.symm.trans (decide_eq_true live)
    cases stillOpen
  · exact Option.map_eq_some_iff.mp (faithfulLater.ending_state rfl)

/-- The loop hands an event on, and only those stay live that got it. -/
theorem newest_published (linked : Linked buffer actions system) {call : Call} {rest : List Call}
    {event : Event} (serving : system.phase = .serving) (next : system.inbox = call :: rest)
    (publishes : call.command = .publish event) {id : Id}
    (live : id ∈ (system.step .serve).loop.live) :
    ∃ mailbox, (system.step .serve).loop.mailbox? id = some mailbox ∧ mailbox.isAttached = true ∧
      mailbox.queue.getLast? = some event := by
  have goesOn : ¬call.isStop = true := by simp [Call.isStop, publishes]
  have running := linked.running (by simp [serving])
  have served : (system.step .serve).loop = (system.loop.publish event).1 := by
    simp [System.step, System.serve, serving, next, goesOn, System.acknowledge_eq, System.note,
      publishes, Loop.handle, running]
  have seen : (system.step .serve).loop.view id = (system.loop.view id).publish event := by
    rw [served, Loop.view_publish]
  have stillLive : ((system.loop.view id).publish event).isLive = true :=
    seen ▸ decide_eq_true live
  obtain ⟨mailbox, found⟩ : ∃ mailbox, system.loop.mailbox? id = some mailbox := by
    have present := (Loop.Narrows.publish system.loop event).live.subset (served ▸ live)
    obtain ⟨mailbox, found, -⟩ := (linked.live_iff id).mp present
    exact ⟨mailbox, found⟩
  obtain ⟨delivered, present, attached, newest⟩ := View.newest_of_publish event found stillLive
  rw [← seen] at present
  exact ⟨delivered, present, attached, newest⟩

end Linked

/-- Live subscriptions are the active ones, each is listed once, none has more events queued than there
is room for, numbers are given out in ascending order, and a subscription that was evicted or
unregistered remains so, whatever clients, readers and the loop do. -/
theorem lifecycle (buffer inboxCapacity : Nat) (moves : List Move) :
    Lifecycle buffer ((System.start buffer inboxCapacity).run moves) := by
  obtain ⟨actions, linked⟩ := (Linked.start buffer inboxCapacity).run
    (Sound.start buffer inboxCapacity) moves
  have sound := Sound.run buffer inboxCapacity moves
  have tidy := (Loop.IsTidy.start buffer).run actions
  rw [List.nil_append] at linked
  rw [← linked.loop] at tidy
  constructor
  case live_nodup => exact tidy.live
  case made_distinct => exact tidy.made
  case live_iff => exact linked.live_iff
  case registered_iff => exact fun call began id registers => linked.registered_iff began registers
  case received_of_empty => exact fun id mailbox found drained _ => linked.received_of_empty found drained
  case queue_bounded =>
    intro id mailbox found
    obtain ⟨capacity, bounded⟩ := View.IsBounded.run buffer id actions
    rw [← linked.loop] at capacity bounded
    exact capacity ▸ bounded mailbox found
  case numbered => exact Numbered.run buffer inboxCapacity moves
  case terminal_forever =>
    exact fun id mailbox found terminal => linked.terminal_forever sound found terminal
  case newest_published =>
    exact fun call rest event serving next publishes id =>
      linked.newest_published serving next publishes

/-- A subscription whose queue was full is evicted. Neither its unregistration nor the end of the hub
makes anything else of it. -/
theorem lifecycle_evicted_then_stopped :
    let event : Event := ⟨.update .null, none, 0⟩
    let system := (System.start 1 4).run
      (System.undisturbed true 0 .subscribe ++ System.undisturbed true 0 (.publish event) ++
        System.undisturbed true 0 (.publish event))
    let later := system.run
      (System.undisturbed true 0 (.unregister 1) ++ System.undisturbed true 0 .stop)
    (system.loop.mailbox? 1).map Mailbox.state = some .evicted ∧ later.phase = .ended ∧
      1 ∉ later.loop.live ∧ ∃ last, later.loop.mailbox? 1 = some last ∧ last.state = .evicted := by
  intro event system later
  have evicted : (system.loop.mailbox? 1).map Mailbox.state = some .evicted := by decide +kernel
  have ended : later.phase = .ended := by decide +kernel
  obtain ⟨mailbox, found, state⟩ := Option.map_eq_some_iff.mp evicted
  have terminal : mailbox.state.isTerminal = true := by rw [state]; rfl
  have kept : Lifecycle 1 system := lifecycle 1 4 _
  have forever := kept.terminal_forever 1 mailbox found terminal
  rw [state] at forever
  clear_value system
  exact ⟨evicted, ended, forever _⟩

end Dashboard.Hub
