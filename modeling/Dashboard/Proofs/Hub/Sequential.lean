import Dashboard.Proofs.Hub.Submission

namespace Dashboard.Hub

/-- Whether the service does what it is asked, and what becomes of it. -/
def Service.perform (service : Service) : Wish → Bool × Service
  | .subscribe => (service.subscribe.1.isOk, service.subscribe.2.1)
  | .unregister id => ((service.unregister id).1.isOk, (service.unregister id).2.1)
  | .publish event => ((service.publish event).1.isOk, (service.publish event).2.1)
  | .stop => (true, service.stop.1)

namespace System

/-- What the service knows of a system. -/
def service (system : System) : Service := ⟨system.loop, system.nextId, system.isRunning⟩

/-- Nobody is at a call, and nothing is left to do. -/
structure IsQuiet (system : System) : Prop where
  stages : system.stages = fun _ => .idle
  inbox : system.inbox = []
  holder : system.holder = none
  room : 0 < system.capacity
  hasEnded : system.loop.hasEnded = !system.isRunning
  phase : system.phase = if system.isRunning then .serving else .ended
  hasHandle : system.hasHandle = system.isRunning

theorem IsQuiet.start (buffer inboxCapacity : Nat) : (System.start buffer inboxCapacity).IsQuiet where
  stages := rfl
  inbox := rfl
  holder := rfl
  room := Nat.lt_of_lt_of_le Nat.zero_lt_one (Nat.le_max_right inboxCapacity 1)
  hasEnded := rfl
  phase := rfl
  hasHandle := rfl

/-- The moves of a client that has the hub to itself, and of the loop that serves it. -/
def undisturbed (isRunning : Bool) (client : Nat) (wish : Wish) : List Move :=
  .begin client wish ::
    match isRunning, wish with
    | true, .stop =>
      [.advance client, .advance client, .serve, .serve, .serve, .advance client, .advance client,
        .advance client]
    | true, .subscribe | true, .unregister _ | true, .publish _ =>
      [.advance client, .advance client, .serve, .advance client]
    | false, _ => [.advance client, .advance client, .advance client]

/-- What a call leaves in the history. -/
def trace (call : Call) (occasions : List Occasion) : List Incident :=
  occasions.map fun occasion => ⟨occasion, call⟩

variable {system : System}

/-- A command is handled as soon as it has been submitted. -/
theorem IsQuiet.run_submitted (quiet : system.IsQuiet) (running : system.isRunning = true)
    (client : Nat) (command : Command) (goesOn : command ≠ .stop) :
    (system.call client command).run [.advance client, .advance client, .serve, .advance client] =
      { system with
        loop := (system.loop.handle command).1
        nextCall := system.nextCall + 1
        history := system.history ++ trace ⟨system.nextCall, client, command⟩
          [.began, .entered, .handled, .returned true] } := by
  have serving : system.phase = .serving := by simp [quiet.phase, running]
  cases command with
  | stop => exact absurd rfl goesOn
  | register id | unregister id | publish event =>
    simp +contextual [call, run, step, advance, serve, enter, finish, acknowledge, turn, note,
      isClosed, trace, Call.isStop, Call.isAcknowledged, running, serving, quiet.room, quiet.inbox,
      quiet.stages]

/-- The one that stops the hub waits for the end of the loop. -/
theorem IsQuiet.run_stopping (quiet : system.IsQuiet) (running : system.isRunning = true)
    (client : Nat) :
    (system.call client .stop).run [.advance client, .advance client, .serve, .serve, .serve,
        .advance client, .advance client, .advance client] =
      { system with
        loop := system.loop.stop.1
        isRunning := false
        phase := .ended
        hasHandle := false
        nextCall := system.nextCall + 1
        history := system.history ++ trace ⟨system.nextCall, client, .stop⟩
          [.began, .entered, .handled, .returned true] } := by
  have serving : system.phase = .serving := by simp [quiet.phase, running]
  have handle : system.hasHandle = true := by simp [quiet.hasHandle, running]
  simp +contextual [call, run, step, advance, serve, enter, finish, turn, note, isClosed, trace,
    Call.isStop, running, serving, handle, quiet.room, quiet.inbox, quiet.stages, quiet.holder]

/-- A stopped hub is not asked, and a subscription it does not take is dropped. -/
theorem IsQuiet.run_refused (quiet : system.IsQuiet) (stopped : system.isRunning = false)
    (client : Nat) (command : Command) :
    (system.call client command).run [.advance client, .advance client, .advance client] =
      { system with
        loop := match command with
          | .register id => system.loop.step (.detach id)
          | _ => system.loop
        nextCall := system.nextCall + 1
        history := system.history ++ trace ⟨system.nextCall, client, command⟩
          [.began, .returned (command matches .stop)] } := by
  have handle : system.hasHandle = false := by simp [quiet.hasHandle, stopped]
  cases command with
  | register id | unregister id | publish event | stop =>
    simp +contextual [call, run, step, advance, refuse, finish, turn, note, trace, Call.isStop,
      stopped, handle, quiet.stages, quiet.holder]

theorem IsQuiet.prepare (quiet : system.IsQuiet) (wish : Wish) : (system.prepare wish).IsQuiet := by
  cases wish with
  | subscribe => exact { quiet with }
  | unregister id | publish event | stop => exact quiet

theorem run_begin (quiet : system.IsQuiet) (client : Nat) (wish : Wish) (moves : List Move) :
    system.run (.begin client wish :: moves) =
      ((system.prepare wish).call client (wish.command system.nextId)).run moves := by
  have idle : system.stages client = .idle := by rw [quiet.stages]
  have begins : system.step (.begin client wish) =
      (system.prepare wish).call client (wish.command system.nextId) := by
    simp only [step, begin, idle]
  rw [← begins]
  rfl

/-- From any state in which nothing is going on, a running hub does what the service does. -/
theorem IsQuiet.run_undisturbed (quiet : system.IsQuiet) (running : system.isRunning = true)
    (client : Nat) (wish : Wish) :
    let after := system.run (undisturbed system.isRunning client wish)
    after.IsQuiet ∧ system.service.perform wish = (true, after.service) ∧
      ⟨.returned true, ⟨system.nextCall, client, wish.command system.nextId⟩⟩ ∈ after.history := by
  have notEnded : ¬system.loop.hasEnded = true := by simp [quiet.hasEnded, running]
  have unended {loop : Loop} (goesOn : ¬loop.hasEnded = true) :
      loop.hasEnded = !system.isRunning := by simpa [running] using goesOn
  have handled (command : Command) (goesOn : command ≠ .stop)
      (admitted : system.loop.admits command) :
      ¬(system.loop.handle command).1.hasEnded = true := by
    have stepped := system.loop.hasEnded_step (.handle command)
    rw [Loop.step, if_pos admitted] at stepped
    simpa [stepped, notEnded] using goesOn
  have prepared := quiet.prepare wish
  rw [running]
  cases wish with
  | subscribe =>
    have registered : (system.create.loop.handle (.register system.nextId)).1 =
        (system.create.loop.register system.nextId).1 := by
      have running : ¬system.create.loop.hasEnded = true := notEnded
      simp only [Loop.handle, if_neg running]
    have goesOn : Wish.subscribe.command system.nextId ≠ .stop := by simp [Wish.command]
    rw [undisturbed, run_begin quiet, prepared.run_submitted running client _ goesOn]
    refine ⟨{ prepared with hasEnded := ?_ }, ?_, ?_⟩
    · exact (congrArg Loop.hasEnded registered).trans (unended notEnded)
    · simp [Service.perform, service, Service.subscribe, running, Except.isOk, Except.toBool,
        System.prepare, create, Wish.command]
    · simp [trace, System.prepare, create]
  | unregister id | publish event =>
    rw [undisturbed, run_begin quiet, prepared.run_submitted running client]
    · refine ⟨{ prepared with hasEnded := unended (handled _ (by simp [Wish.command]) rfl) }, ?_, ?_⟩
      · simp [Service.perform, service, Service.unregister, Service.publish, Service.submit, running,
          Except.isOk, Except.toBool, System.prepare, Wish.command]
      · simp [trace, System.prepare]
    · simp [Wish.command]
  | stop =>
    rw [undisturbed, run_begin quiet, Wish.command, prepared.run_stopping running client]
    refine ⟨{ prepared with hasEnded := rfl, phase := rfl, hasHandle := rfl }, ?_, ?_⟩
    · simp [Service.perform, service, Service.stop, Loop.handle, running, notEnded, System.prepare]
    · simp [trace, System.prepare]

/-- A stopped hub answers what the service does. The subscription that it refuses has been made, and
nobody holds it. -/
theorem IsQuiet.run_undisturbed_of_stopped (quiet : system.IsQuiet)
    (stopped : system.isRunning = false) (client : Nat) (wish : Wish) :
    let after := system.run (undisturbed system.isRunning client wish)
    after.IsQuiet ∧
      (system.service.perform wish).2 = { after.service with loop := system.loop } ∧
      after.loop = (match wish with
        | .subscribe => (system.loop.create system.nextId).step (.detach system.nextId)
        | .unregister _ | .publish _ | .stop => system.loop) ∧
      ⟨.returned (system.service.perform wish).1,
        ⟨system.nextCall, client, wish.command system.nextId⟩⟩ ∈ after.history := by
  have prepared := quiet.prepare wish
  have refused : (system.prepare wish).isRunning = false := by cases wish <;> exact stopped
  rw [stopped, undisturbed, run_begin quiet, prepared.run_refused refused client]
  cases wish with
  | subscribe | unregister id | publish event | stop =>
    refine ⟨{ prepared with }, ?_, rfl, ?_⟩
    · simp [Service.perform, service, Service.subscribe, Service.unregister, Service.publish,
        Service.submit, Service.stop, stopped, System.prepare, create]
    · simp [trace, Service.perform, service, Service.subscribe, Service.unregister, Service.publish,
        Service.submit, stopped, Except.isOk, Except.toBool, System.prepare, create, Wish.command]

end System
end Dashboard.Hub
