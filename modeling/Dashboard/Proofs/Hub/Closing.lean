import Dashboard.Proofs.Hub.Order

namespace Dashboard.Hub

/-- The loop of a system has come about by the given actions, none of which was passed over. -/
structure Linked (buffer : Nat) (actions : List Action) (system : System) : Prop where
  loop : system.loop = (Loop.start buffer).run actions
  ended : system.loop.hasEnded = true ↔ system.phase = .ended
  unmade : ∀ id, system.nextId ≤ id → system.loop.mailbox? id = none
  made : ∀ call ∈ calls system.history .began, ∀ id, call.command = .register id →
    system.loop.mailbox? id ≠ none
  ahead : ∀ call ∈ calls system.history .began, ∀ id, call.command = .register id →
    ((Story.of buffer id actions).tenure = .ahead ↔ call ∉ calls system.history .handled)
  single : ∀ first ∈ calls system.history .began, ∀ second ∈ calls system.history .began,
    ∀ id, first.command = .register id → second.command = .register id → first = second

namespace Linked

variable {buffer : Nat} {actions : List Action} {system after : System}

theorem start (buffer inboxCapacity : Nat) :
    Linked buffer [] (System.start buffer inboxCapacity) where
  loop := rfl
  ended := by simp [System.start, Loop.start]
  unmade _ _ := rfl
  made _ present := by cases present
  ahead _ present := by cases present
  single _ present := by cases present

theorem running (linked : Linked buffer actions system) (goesOn : system.phase ≠ .ended) :
    ¬system.loop.hasEnded = true :=
  fun ended => goesOn (linked.ended.mp ended)

theorem faithful (linked : Linked buffer actions system) (id : Id) :
    ∃ obtained, Faithful (system.loop.view id) obtained (Story.of buffer id actions).tenure := by
  have faithful := Story.faithful buffer id actions
  rw [Story.of_loop, ← linked.loop] at faithful
  exact ⟨_, faithful⟩

/-- A subscription that has not been made has not been registered. -/
theorem ahead_of_unmade (linked : Linked buffer actions system) {id : Id}
    (absent : system.loop.mailbox? id = none) : (Story.of buffer id actions).tenure = .ahead := by
  obtain ⟨obtained, faithful⟩ := linked.faithful id
  generalize (Story.of buffer id actions).tenure = tenure at faithful ⊢
  cases faithful with
  | ahead => rfl
  | during live running found => cases absent.symm.trans found
  | past gone found => cases absent.symm.trans found

/-- The subscription of a registration that is still to be handled is fresh. -/
theorem isFresh_of_unhandled (linked : Linked buffer actions system) {call : Call} {id : Id}
    (began : call ∈ calls system.history .began) (command : call.command = .register id)
    (unhandled : call ∉ calls system.history .handled) : system.loop.isFresh id = true := by
  obtain ⟨obtained, faithful⟩ := linked.faithful id
  rw [(linked.ahead call began id command).mpr unhandled] at faithful
  obtain ⟨mailbox, found⟩ := Option.ne_none_iff_exists'.mp (linked.made call began id command)
  cases faithful with
  | ahead idle untouched => simp [Loop.isFresh, found, (untouched mailbox found).1]

theorem extend (linked : Linked buffer actions system) {action : Action}
    (loop : after.loop = system.loop.step action)
    (began : calls after.history .began = calls system.history .began)
    (phase : after.phase = .ended ↔ system.phase = .ended ∨ action = .handle .stop)
    (nextId : system.nextId ≤ after.nextId) (created : ∀ id, action = .create id → id < after.nextId)
    (handled : ∀ call ∈ calls system.history .began, ∀ id, call.command = .register id →
      (call ∈ calls after.history .handled ↔ call ∈ calls system.history .handled ∨
        (system.loop.view id).isRegistered id action = true)) :
    Linked buffer (actions ++ [action]) after where
  loop := by
    rw [loop, linked.loop, Loop.run_append]
    rfl
  ended := by rw [loop, Loop.hasEnded_step, linked.ended, phase]
  unmade id unused := by
    rw [loop, Loop.mailbox?_step_eq_none]
    refine ⟨linked.unmade id (Nat.le_trans nextId unused), fun same => ?_⟩
    exact Nat.not_lt.mpr unused (created id same)
  made call present id command := by
    rw [began] at present
    rw [loop, ne_eq, Loop.mailbox?_step_eq_none]
    exact fun absent => linked.made call present id command absent.1
  ahead call present id command := by
    rw [began] at present
    rw [Story.of_append, Story.next, Tenure.next_eq_ahead, Story.of_loop, ← linked.loop,
      linked.ahead call present id command, handled call present id command, not_or]
  single := by
    rw [began]
    exact linked.single

theorem quiet (linked : Linked buffer actions system) (loop : after.loop = system.loop)
    (nextId : after.nextId = system.nextId) (phase : after.phase = .ended ↔ system.phase = .ended)
    (began : ∀ call id, call.command = .register id → call ∈ calls after.history .began →
      call ∈ calls system.history .began)
    (handled : ∀ call id, call.command = .register id →
      (call ∈ calls after.history .handled ↔ call ∈ calls system.history .handled)) :
    Linked buffer actions after where
  loop := loop.trans linked.loop
  ended := by rw [loop, linked.ended, phase]
  unmade := by
    rw [loop, nextId]
    exact linked.unmade
  made call present id command := by
    rw [loop]
    exact linked.made call (began call id command present) id command
  ahead call present id command := by
    rw [handled call id command]
    exact linked.ahead call (began call id command present) id command
  single first firstPresent second secondPresent id firstCommand secondCommand :=
    linked.single first (began first id firstCommand firstPresent) second
      (began second id secondCommand secondPresent) id firstCommand secondCommand

theorem read (linked : Linked buffer actions system) {action : Action} {id : Id}
    (reads : action = .receive id ∨ action = .detach id) :
    Linked buffer (actions ++ [action]) { system with loop := system.loop.step action } := by
  refine linked.extend rfl rfl ?_ (Nat.le_refl _) ?_ ?_
  · rcases reads with rfl | rfl <;> simp
  · rcases reads with rfl | rfl <;> simp
  · rcases reads with rfl | rfl <;> simp [View.isRegistered]

/-- A client makes a subscription and begins to register it. -/
theorem subscribe (linked : Linked buffer actions system) (sound : Sound system) (client : Nat) :
    Linked buffer (actions ++ [.create system.nextId])
      (system.create.call client (.register system.nextId)) := by
  have absent : system.loop.mailbox? system.nextId = none :=
    linked.unmade system.nextId (Nat.le_refl _)
  have created : system.create.loop = system.loop.step (.create system.nextId) := by
    simp [System.create, Loop.step, absent]
  have unused (call : Call) (began : call ∈ calls system.history .began) :
      call.command ≠ .register system.nextId :=
    fun same => linked.made call began system.nextId same absent
  have extended : Linked buffer (actions ++ [.create system.nextId]) system.create := by
    refine linked.extend created rfl ?_ (Nat.le_succ _) ?_ ?_
    · simp [System.create]
    · rintro id ⟨⟩
      exact Nat.lt_succ_self _
    · simp [System.create, View.isRegistered]
  have ahead : (Story.of buffer system.nextId (actions ++ [.create system.nextId])).tenure = .ahead
      := by
    rw [Story.of_append, Story.next, Tenure.next_eq_ahead]
    exact ⟨linked.ahead_of_unmade absent, by simp [View.isRegistered]⟩
  refine { extended with made := ?_, ahead := ?_, single := ?_ }
  · intro call present id command
    rcases mem_calls_append.mp present with earlier | ⟨-, rfl⟩
    · exact extended.made call earlier id command
    · cases command
      have here : (system.loop.step (.create system.nextId)).mailbox? system.nextId ≠ none := by
        simp [Loop.mailbox?_step_eq_none]
      exact created ▸ here
  · intro call present id command
    simp only [System.call, System.turn, System.note, mem_calls_append, reduceCtorEq, false_and,
      or_false]
    rcases mem_calls_append.mp present with earlier | ⟨-, rfl⟩
    · exact extended.ahead call earlier id command
    · cases command
      refine iff_of_true ahead fun handled => ?_
      exact Nat.lt_irrefl _ (sound.recorded.numbered _ (sound.recorded.begun _ _ handled))
  · intro first firstPresent second secondPresent id firstCommand secondCommand
    rcases mem_calls_append.mp firstPresent with firstEarlier | ⟨-, rfl⟩
    · rcases mem_calls_append.mp secondPresent with secondEarlier | ⟨-, rfl⟩
      · exact linked.single first firstEarlier second secondEarlier id firstCommand secondCommand
      · cases secondCommand
        exact absurd firstCommand (unused first firstEarlier)
    · rcases mem_calls_append.mp secondPresent with secondEarlier | ⟨-, rfl⟩
      · cases firstCommand
        exact absurd secondCommand (unused second secondEarlier)
      · rfl

/-- The loop handles a command, which no action passes over. -/
theorem handle (linked : Linked buffer actions system) (sound : Sound system) {call : Call}
    {rest : List Call} (serving : system.phase = .serving) (next : system.inbox = call :: rest)
    (isStop : call.isStop = false) :
    Linked buffer (actions ++ [.handle call.command])
      (({ system with
        inbox := rest
        loop := (system.loop.handle call.command).1 }.note .handled call).acknowledge call true) := by
  have began := sound.began_of_next next
  have unhandled := (sound.next_is_new next).1
  have running : system.loop.hasEnded = false := by simpa using linked.running (by simp [serving])
  have admitted : system.loop.admits call.command = true := by
    cases command : call.command with
    | register id => exact linked.isFresh_of_unhandled began command unhandled
    | unregister id | publish event | stop => rfl
  have goesOn : call.command ≠ .stop := by
    intro command
    simp [Call.isStop, command] at isStop
  have handled : (system.loop.handle call.command).1 = system.loop.step (.handle call.command) := by
    rw [Loop.step, if_pos admitted]
  rw [System.acknowledge_eq]
  refine linked.extend handled ?_ ?_ (Nat.le_refl _) (by simp) ?_
  · simp [System.note, calls_append]
  · simp [System.note, goesOn]
  · intro own present id command
    simp only [System.note, mem_calls_append, true_and]
    refine or_congr Iff.rfl ⟨?_, fun registered => ?_⟩
    · rintro rfl
      have fresh : (system.loop.view id).mailbox.any (·.state = .registered) = true :=
        linked.isFresh_of_unhandled present command unhandled
      have ended : (system.loop.view id).hasEnded = false := running
      simp [View.isRegistered, command, fresh, ended]
    · cases registers : call.command with
      | register other =>
        rw [registers] at registered
        obtain rfl : other = id := by
          simp only [View.isRegistered, Bool.and_eq_true, decide_eq_true_eq] at registered
          exact registered.1.1
        exact linked.single own present call began other command registers
      | unregister other | publish event | stop =>
        rw [registers] at registered
        cases registered

/-- Every transition is one of the hub's actions, or none. -/
theorem transition (linked : Linked buffer actions system) (sound : Sound system)
    (transition : System.Transition system after) :
    ∃ more, Linked buffer (actions ++ more) after := by
  have still {last : System} (kept : Linked buffer actions last) :
      ∃ more, Linked buffer (actions ++ more) last := ⟨[], by simpa using kept⟩
  cases transition with
  | stay => exact still linked
  | turn stands turns gone =>
    exact still (linked.quiet rfl rfl Iff.rfl (fun _ _ _ => id) fun _ _ _ => Iff.rfl)
  | @subscribe client idle => exact ⟨_, linked.subscribe sound client⟩
  | @call client command idle other =>
    refine still (linked.quiet rfl rfl Iff.rfl ?_ ?_)
    · intro call id registers present
      rcases mem_calls_append.mp present with earlier | ⟨-, rfl⟩
      · exact earlier
      · exact absurd registers (other id)
    · simp [System.call, System.turn, System.note, mem_calls_append]
  | @enter client call stands isOpen =>
    refine still (linked.quiet rfl rfl Iff.rfl ?_ ?_)
    · simp [System.enter, System.turn, System.note, mem_calls_append]
    · simp [System.enter, System.turn, System.note, mem_calls_append]
  | @finish client call isOk stands =>
    have noted : Linked buffer actions ((system.note (.returned isOk) call).turn client .idle) := by
      refine linked.quiet rfl rfl Iff.rfl ?_ ?_
      · simp [System.turn, System.note, mem_calls_append]
      · simp [System.turn, System.note, mem_calls_append]
    simp only [System.finish]
    split
    · exact ⟨_, noted.read (Or.inr rfl)⟩
    · exact still noted
  | @leave call rest serving next isStop =>
    refine still (linked.quiet rfl rfl ?_ ?_ ?_)
    · simp [System.note, serving]
    · simp [System.note, mem_calls_append]
    · intro own id registers
      have different : own ≠ call := by
        rintro rfl
        simp [Call.isStop, registers] at isStop
      simp [System.note, mem_calls_append, different]
  | handle serving next isStop => exact ⟨_, linked.handle sound serving next isStop⟩
  | close leaving =>
    refine still (linked.quiet rfl rfl ?_ (fun _ _ _ => id) fun _ _ _ => Iff.rfl)
    simp [leaving]
  | discard draining next =>
    rw [System.acknowledge_eq]
    refine still (linked.quiet rfl rfl Iff.rfl ?_ ?_)
    · simp [System.note, mem_calls_append]
    · simp [System.note, mem_calls_append]
  | finishLoop draining empty =>
    have running := linked.running (by simp [draining])
    -- for the live subscriptions, the end of the loop is a stop that it handles
    have stopped : system.loop.stop.1 = system.loop.step (.handle .stop) := by
      simp [Loop.step, Loop.admits, Loop.handle, running]
    exact ⟨_, linked.extend stopped rfl (by simp) (Nat.le_refl _) (by simp)
      (by simp [View.isRegistered])⟩
  | receive id => exact ⟨_, linked.read (Or.inl rfl)⟩
  | detach id => exact ⟨_, linked.read (Or.inr rfl)⟩

theorem run (linked : Linked buffer actions system) (sound : Sound system) (moves : List Move) :
    ∃ more, Linked buffer (actions ++ more) (system.run moves) := by
  refine (System.run_induction
    (fun system => Sound system ∧ ∃ more, Linked buffer (actions ++ more) system)
    ⟨sound, [], by simpa using linked⟩ ?_ moves).2
  rintro before next ⟨sound, earlier, linked⟩ transition
  obtain ⟨more, extended⟩ := linked.transition sound transition
  exact ⟨sound.transition transition, earlier ++ more, by rwa [← List.append_assoc]⟩

theorem live_of_ended (linked : Linked buffer actions system) (ended : system.phase = .ended) :
    system.loop.live = [] := by
  refine List.eq_nil_iff_forall_not_mem.mpr fun id live => ?_
  obtain ⟨obtained, faithful⟩ := linked.faithful id
  have isLive : (system.loop.view id).isLive = true := decide_eq_true live
  have hasEnded : (system.loop.view id).hasEnded = true := linked.ended.mpr ended
  generalize (Story.of buffer id actions).tenure = tenure at faithful
  cases faithful with
  | ahead idle => cases idle.symm.trans isLive
  | during _ running => cases running.symm.trans hasEnded
  | past gone => cases gone.symm.trans isLive

/-- When the loop has ended, what has been registered is in a terminal state. -/
theorem terminal_of_ended (linked : Linked buffer actions system) (sound : Sound system)
    (ended : system.phase = .ended) {call : Call} {id : Id}
    (handled : call ∈ calls system.history .handled) (command : call.command = .register id) :
    ∃ mailbox, system.loop.mailbox? id = some mailbox ∧ mailbox.state.isTerminal = true := by
  obtain ⟨obtained, faithful⟩ := linked.faithful id
  have hasEnded : (system.loop.view id).hasEnded = true := linked.ended.mpr ended
  have begun := sound.recorded.begun _ call handled
  have passed : (Story.of buffer id actions).tenure ≠ .ahead :=
    fun ahead => (linked.ahead call begun id command).mp ahead handled
  generalize (Story.of buffer id actions).tenure = tenure at faithful passed
  cases faithful with
  | ahead => exact absurd rfl passed
  | during _ running => cases running.symm.trans hasEnded
  | @past mailbox _ _ gone found terminal => exact ⟨mailbox, found, terminal⟩

end Linked
end Dashboard.Hub
