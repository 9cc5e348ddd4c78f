import Dashboard.Proofs.Hub.Closing

namespace Dashboard.Hub

namespace Precedes

/-- Where no entry comes twice, what stands before an entry of the front is in the front too. -/
theorem mem_front {α : Type} {front back : List α} {first second : α}
    (precedes : Precedes (front ++ back) first second) (nodup : (front ++ back).Nodup)
    (present : second ∈ front) : first ∈ front := by
  obtain ⟨left, right, split, inFront, inBack⟩ := List.sublist_append_iff.mp precedes
  have notBehind : second ∉ right := by
    intro behind
    exact (List.nodup_append.mp nodup).2.2 second present second (inBack.mem behind) rfl
  cases left with
  | nil =>
    rw [List.nil_append] at split
    rw [← split] at notBehind
    exact absurd (List.mem_cons_of_mem _ List.mem_cons_self) notBehind
  | cons entry rest =>
    obtain ⟨rfl, -⟩ := List.cons.inj split
    exact inFront.mem List.mem_cons_self

end Precedes

theorem calls_of_precedes {history : List Incident} {occasion : Occasion} {first second : Call}
    (precedes : Precedes history ⟨occasion, first⟩ ⟨occasion, second⟩) :
    Precedes (calls history occasion) first second := by
  simpa [Precedes, calls] using (precedes.filter (·.occasion = occasion)).map Incident.call

namespace Sound

variable {system : System}

theorem handled_prefix (sound : Sound system) :
    ∃ others, calls system.history .entered = calls system.history .handled ++ others := by
  refine ⟨calls system.history .discarded ++ system.inbox, ?_⟩
  rw [sound.queue, List.append_assoc]

theorem handled_nodup (sound : Sound system) : (calls system.history .handled).Nodup := by
  obtain ⟨others, entered⟩ := sound.handled_prefix
  have nodup := sound.entered_nodup
  rw [entered] at nodup
  exact (List.nodup_append.mp nodup).1

/-- Nothing is handled behind the command that stops the loop. -/
theorem handled_before_stop (sound : Sound system) {call stop : Call}
    (handled : call ∈ calls system.history .handled) (other : ¬call.isStop = true)
    (stopHandled : stop ∈ calls system.history .handled) (isStop : stop.isStop = true) :
    Precedes system.history ⟨.handled, call⟩ ⟨.handled, stop⟩ := by
  refine precedes_of_calls (Precedes.of_pairwise sound.course.stopLast handled stopHandled ?_ ?_)
  · rintro rfl
    exact other isStop
  · simp [isStop]

/-- The commands of one client are handled in the order in which it gives them. -/
theorem handled_in_order (sound : Sound system) {first second : Call}
    (firstHandled : first ∈ calls system.history .handled)
    (secondHandled : second ∈ calls system.history .handled) (same : first.client = second.client)
    (precedes : Precedes system.history ⟨.began, first⟩ ⟨.began, second⟩) :
    Precedes system.history ⟨.handled, first⟩ ⟨.handled, second⟩ := by
  have numbers : first.number < second.number := by
    simpa using sound.recorded.beganOrder.sublist (calls_of_precedes precedes)
  have ordered : (calls system.history .handled).Pairwise fun earlier later =>
      earlier.client = later.client → earlier.number < later.number := by
    obtain ⟨others, entered⟩ := sound.handled_prefix
    have enteredOrder := sound.enteredOrder
    rw [entered] at enteredOrder
    exact (List.pairwise_append.mp enteredOrder).1
  refine precedes_of_calls (Precedes.of_pairwise ordered firstHandled secondHandled ?_ ?_)
  · rintro rfl
    exact Nat.lt_irrefl _ numbers
  · intro reversed
    exact Nat.lt_asymm numbers (reversed same.symm)

/-- What has entered the inbox before anybody began to stop the hub has been handled when the loop has
ended. -/
theorem handled_of_early (sound : Sound system) (orderly : Orderly system)
    (ended : system.phase = .ended) {call : Call}
    (early : ∀ stop ∈ calls system.history .began, stop.isStop = true →
      Precedes system.history ⟨.entered, call⟩ ⟨.began, stop⟩) :
    call ∈ calls system.history .handled := by
  obtain ⟨stop, stopHandled, isStop⟩ := sound.course.stopped (by simp [ended])
  obtain ⟨others, entered⟩ := sound.handled_prefix
  have stopEntered := sound.entered_of_accepted (Or.inl stopHandled)
  have before := orderly.early call stop stopEntered
    (early stop (sound.recorded.begun _ stop stopHandled) isStop)
  have nodup := sound.entered_nodup
  rw [entered] at before nodup
  exact before.mem_front nodup stopHandled

end Sound

/-- What clients may rely on, at any point of a run. -/
structure Agreement (system : System) : Prop where
  /-- A call that is told that the hub was stopped is not handled. -/
  refused : ∀ call, ⟨.returned false, call⟩ ∈ system.history → ⟨.handled, call⟩ ∉ system.history
  /-- A subscription, or its end, is handled before the client learns of it, and before the command that
  stops the loop. -/
  acknowledged : ∀ call, call.isAcknowledged = true → ⟨.returned true, call⟩ ∈ system.history →
    Precedes system.history ⟨.handled, call⟩ ⟨.returned true, call⟩ ∧
      ∀ stop, stop.isStop = true → ⟨.handled, stop⟩ ∈ system.history →
        Precedes system.history ⟨.handled, call⟩ ⟨.handled, stop⟩
  /-- What has entered the inbox before anybody began to stop the hub is handled before any stop
  returns. -/
  early : ∀ call,
    (∀ stop, stop.isStop = true → ⟨.began, stop⟩ ∈ system.history →
      Precedes system.history ⟨.entered, call⟩ ⟨.began, stop⟩) →
    ∀ stop isOk, stop.isStop = true → ⟨.returned isOk, stop⟩ ∈ system.history →
      Precedes system.history ⟨.handled, call⟩ ⟨.returned isOk, stop⟩
  once : (calls system.history .handled).Nodup
  /-- The commands of one client are handled in the order in which it gives them. -/
  ordered : ∀ first second, first.client = second.client →
    Precedes system.history ⟨.began, first⟩ ⟨.began, second⟩ →
    ⟨.handled, first⟩ ∈ system.history → ⟨.handled, second⟩ ∈ system.history →
      Precedes system.history ⟨.handled, first⟩ ⟨.handled, second⟩
  /-- What begins after a subscription has returned is handled after its registration. -/
  later : ∀ first second, first.isAcknowledged = true →
    Precedes system.history ⟨.returned true, first⟩ ⟨.began, second⟩ →
    ⟨.handled, second⟩ ∈ system.history →
      Precedes system.history ⟨.handled, first⟩ ⟨.handled, second⟩
  /-- When a stop has returned, no subscription is live and each that has been handed out is in a
  terminal state, whatever comes next. -/
  closed : ∀ stop isOk, stop.isStop = true → ⟨.returned isOk, stop⟩ ∈ system.history →
    system.loop.live = [] ∧
      (∀ call id, call.command = .register id → ⟨.returned true, call⟩ ∈ system.history →
        ∃ mailbox, system.loop.mailbox? id = some mailbox ∧ mailbox.state.isTerminal = true) ∧
      ∀ more, (system.run more).loop.live = [] ∧
        ∀ id mailbox, system.loop.mailbox? id = some mailbox →
          ((system.run more).loop.mailbox? id).map Mailbox.state = some mailbox.state

/-- When the loop has ended, nothing is live and nothing will be, and states are final. -/
theorem Linked.closed {buffer : Nat} {actions : List Action} {system : System}
    (linked : Linked buffer actions system) (sound : Sound system) (ended : system.phase = .ended)
    (more : List Move) :
    (system.run more).loop.live = [] ∧
      ∀ id mailbox, system.loop.mailbox? id = some mailbox →
        ((system.run more).loop.mailbox? id).map Mailbox.state = some mailbox.state := by
  have hasEnded : system.loop.hasEnded = true := linked.ended.mpr ended
  obtain ⟨next, extended⟩ := linked.run sound more
  have later : (system.run more).loop = system.loop.run next := by
    rw [extended.loop, linked.loop, Loop.run_append]
  rw [later]
  refine ⟨List.eq_nil_iff_forall_not_mem.mpr fun id live => ?_, fun id => ?_⟩
  · have earlier := ((Loop.run_of_hasEnded hasEnded next id).1).mp live
    rw [linked.live_of_ended ended] at earlier
    cases earlier
  · exact (Loop.run_of_hasEnded hasEnded next id).2

/-- Submission and stop agree under every interleaving of any number of clients with each other and
with the loop, for every size of the inbox and of the queues. -/
theorem submission_agrees_with_stop (buffer inboxCapacity : Nat) (moves : List Move) :
    Agreement ((System.start buffer inboxCapacity).run moves) := by
  obtain ⟨sound, orderly⟩ := Orderly.run buffer inboxCapacity moves
  obtain ⟨actions, linked⟩ :=
    (Linked.start buffer inboxCapacity).run (Sound.start buffer inboxCapacity) moves
  generalize (System.start buffer inboxCapacity).run moves = system at sound orderly linked
  constructor
  case refused =>
    intro call returned handled
    exact orderly.refused call (mem_calls.mpr returned) (Or.inl (mem_calls.mpr handled))
  case acknowledged =>
    intro call waits returned
    have answered := orderly.answered call (mem_calls.mpr returned) waits
    refine ⟨answered, fun stop isStop stopHandled => ?_⟩
    exact sound.handled_before_stop (mem_calls.mpr answered.left_mem)
      (fun own => Call.not_isAcknowledged_of_isStop own waits) (mem_calls.mpr stopHandled) isStop
  case early =>
    intro call early stop isOk isStop returned
    obtain ⟨ended, before⟩ := orderly.ended isOk stop (mem_calls.mpr returned) isStop
    -- the loop has ended, so whatever entered before the stop began has been handled
    refine before call (sound.handled_of_early orderly ended fun other began own => ?_)
    exact early other own (mem_calls.mp began)
  case once => exact sound.handled_nodup
  case ordered =>
    intro first second same precedes firstHandled secondHandled
    exact sound.handled_in_order (mem_calls.mpr firstHandled) (mem_calls.mpr secondHandled) same
      precedes
  case later =>
    intro first second waits precedes secondHandled
    exact orderly.later first second waits precedes (mem_calls.mpr secondHandled)
  case closed =>
    intro stop isOk isStop returned
    have ended := (orderly.ended isOk stop (mem_calls.mpr returned) isStop).1
    refine ⟨linked.live_of_ended ended, ?_, linked.closed sound ended⟩
    intro call id command returned
    have waits : call.isAcknowledged = true := by simp [Call.isAcknowledged, command]
    have answered := orderly.answered call (mem_calls.mpr returned) waits
    exact linked.terminal_of_ended sound ended (mem_calls.mpr answered.left_mem) command

/-- A registration that lands behind the command that stops the loop is discarded, and its client told
so; whoever stops the hub then returns. -/
example :
    let moves : List Move :=
      [.begin 1 .subscribe, .advance 1, .begin 2 .stop, .advance 2, .advance 2, .advance 1, .serve,
        .serve, .serve, .advance 1, .serve, .advance 2, .advance 2, .advance 2]
    let history := ((System.start 1 2).run moves).history
    calls history .handled = [⟨1, 2, .stop⟩] ∧ calls history .discarded = [⟨0, 1, .register 1⟩] ∧
      calls history (.returned false) = [⟨0, 1, .register 1⟩] ∧
      calls history (.returned true) = [⟨1, 2, .stop⟩] :=
  ⟨rfl, rfl, rfl, rfl⟩

end Dashboard.Hub
