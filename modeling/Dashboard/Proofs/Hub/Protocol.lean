import Dashboard.Proofs.Hub.Submission

namespace Dashboard.Hub

/-- A client is at a call of its own that has begun and not returned. -/
structure IsCurrent (history : List Incident) (client : Nat) (call : Call) : Prop where
  client : call.client = client
  began : call ∈ calls history .began
  unreturned : ∀ isOk, call ∉ calls history (.returned isOk)

/-- How the stage of a client fits to what has happened. -/
def Fits (history : List Incident) (inbox : List Call) (phase : Phase) (client : Nat) :
    Stage → Prop
  | .idle => True
  | .starting call | .entering call =>
    IsCurrent history client call ∧
      ∀ earlier ∈ calls history .entered, earlier.client = client → earlier.number < call.number
  | .awaiting call => IsCurrent history client call ∧ call ∈ inbox ∧ call.isAcknowledged = true
  | .locking call | .joining call => IsCurrent history client call ∧ call.isStop = true
  | .returning call true =>
    IsCurrent history client call ∧
      (call.isAcknowledged = true → call ∈ calls history .handled) ∧
      (call.isStop = true → phase = .ended)
  | .returning call false =>
    IsCurrent history client call ∧ call.isStop = false ∧
      ¬(call ∈ calls history .handled ∨ call ∈ inbox)

/-- Calls are numbered in the order in which they begin, and nothing happens to a call before. -/
structure Recorded (history : List Incident) (nextCall : Nat) : Prop where
  begun : ∀ occasion call, call ∈ calls history occasion → call ∈ calls history .began
  numbered : ∀ call ∈ calls history .began, call.number < nextCall
  beganOrder : (calls history .began).Pairwise fun first second => first.number < second.number

/-- What the loop has handled and discarded when it has come to a phase. -/
structure Course (history : List Incident) (phase : Phase) : Prop where
  stopLast : (calls history .handled).Pairwise fun first _ => first.isStop = false
  unstopped : phase = .serving → ∀ call ∈ calls history .handled, call.isStop = false
  undiscarded : phase = .serving ∨ phase = .leaving → calls history .discarded = []
  stopped : phase ≠ .serving → ∃ call ∈ calls history .handled, call.isStop = true

/-- What is true of a system at every point of a run. -/
structure Sound (system : System) : Prop where
  recorded : Recorded system.history system.nextCall
  course : Course system.history system.phase
  enteredOrder : (calls system.history .entered).Pairwise fun first second =>
    first.client = second.client → first.number < second.number
  queue : calls system.history .entered =
    calls system.history .handled ++ calls system.history .discarded ++ system.inbox
  fits : ∀ client, Fits system.history system.inbox system.phase client (system.stages client)
  waits : ∀ call ∈ system.inbox, call.isAcknowledged = true →
    system.stages call.client = .awaiting call
  emptied : system.phase = .ended → system.inbox = []
  joined : system.hasHandle = false → system.phase = .ended

theorem Recorded.begin {history : List Incident} {nextCall : Nat}
    (recorded : Recorded history nextCall) (client : Nat) (command : Command) :
    Recorded (history ++ [⟨.began, ⟨nextCall, client, command⟩⟩]) (nextCall + 1) where
  begun occasion call present := by
    rw [mem_calls_append] at present ⊢
    rcases present with earlier | ⟨rfl, rfl⟩
    · exact Or.inl (recorded.begun occasion call earlier)
    · exact Or.inr ⟨rfl, rfl⟩
  numbered call present := by
    rcases mem_calls_append.mp present with earlier | ⟨-, rfl⟩
    · exact Nat.lt_succ_of_lt (recorded.numbered call earlier)
    · exact Nat.lt_succ_self _
  beganOrder := by
    rw [calls_append, if_pos rfl]
    refine List.pairwise_append.mpr ⟨recorded.beganOrder, List.pairwise_singleton _ _, ?_⟩
    intro first present second latest
    obtain rfl := List.mem_singleton.mp latest
    exact recorded.numbered first present

theorem Recorded.note {history : List Incident} {nextCall : Nat} {occasion : Occasion} {call : Call}
    (recorded : Recorded history nextCall) (began : call ∈ calls history .began)
    (later : occasion ≠ .began) : Recorded (history ++ [⟨occasion, call⟩]) nextCall where
  begun other own present := by
    rw [mem_calls_append] at present ⊢
    rcases present with earlier | ⟨rfl, rfl⟩
    · exact Or.inl (recorded.begun other own earlier)
    · exact Or.inl began
  numbered := by simpa [calls_append, later] using recorded.numbered
  beganOrder := by simpa [calls_append, later] using recorded.beganOrder

theorem Course.note {history : List Incident} {phase : Phase} {occasion : Occasion}
    (course : Course history phase) (call : Call) (unhandled : occasion ≠ .handled)
    (undiscarded : occasion ≠ .discarded) : Course (history ++ [⟨occasion, call⟩]) phase where
  stopLast := by simpa [calls_append, unhandled] using course.stopLast
  unstopped := by simpa [calls_append, unhandled] using course.unstopped
  undiscarded := by simpa [calls_append, undiscarded] using course.undiscarded
  stopped := by simpa [calls_append, unhandled] using course.stopped

/-- The loop handles a command, which tells it to stop or not. -/
theorem Course.handle {history : List Incident} {phase : Phase} {call : Call}
    (course : Course history .serving) (leaves : phase = if call.isStop then .leaving else .serving) :
    Course (history ++ [⟨.handled, call⟩]) phase where
  stopLast := by
    rw [calls_append, if_pos rfl]
    refine List.pairwise_append.mpr ⟨course.stopLast, List.pairwise_singleton _ _, ?_⟩
    exact fun first present _ _ => course.unstopped rfl first present
  unstopped serving own present := by
    rcases mem_calls_append.mp present with earlier | ⟨-, rfl⟩
    · exact course.unstopped rfl own earlier
    · rw [serving] at leaves
      split at leaves
      · cases leaves
      · rename_i goesOn
        simpa using goesOn
  undiscarded _ := by simpa [calls_append] using course.undiscarded (Or.inl rfl)
  stopped left := by
    split at leaves
    · rename_i isStop
      exact ⟨call, mem_calls_append.mpr (Or.inr ⟨rfl, rfl⟩), isStop⟩
    · exact absurd leaves left

theorem Course.discard {history : List Incident} (course : Course history .draining) (call : Call) :
    Course (history ++ [⟨.discarded, call⟩]) .draining where
  stopLast := by simpa [calls_append] using course.stopLast
  unstopped := nofun
  undiscarded := by simp
  stopped := by simpa [calls_append] using course.stopped

/-- Once it has been told to stop, the loop goes on to its end. -/
theorem Course.advance {history : List Incident} {phase last : Phase} (course : Course history phase)
    (left : phase ≠ .serving) (late : last = .draining ∨ last = .ended) : Course history last where
  stopLast := course.stopLast
  unstopped serving := by rcases late with rfl | rfl <;> cases serving
  undiscarded early := by rcases late with rfl | rfl <;> rcases early with same | same <;> cases same
  stopped _ := course.stopped left

/-- What happens elsewhere leaves a client where it is. -/
theorem Fits.frame {history after : List Incident} {inbox left : List Call} {phase last : Phase}
    {client : Nat} {stage : Stage} (fits : Fits history inbox phase client stage)
    (began : ∀ call ∈ calls history .began, call ∈ calls after .began)
    (handled : ∀ call ∈ calls history .handled, call ∈ calls after .handled)
    (entered : ∀ call ∈ calls after .entered, call.client = client →
      call ∈ calls history .entered)
    (returned : ∀ isOk, ∀ call ∈ calls after (.returned isOk), call.client = client →
      call ∈ calls history (.returned isOk))
    (accepted : ∀ call, call.client = client → call ∈ calls after .handled ∨ call ∈ left →
      call ∈ calls history .handled ∨ call ∈ inbox)
    (waiting : ∀ call, stage = .awaiting call → call ∈ inbox → call ∈ left)
    (ended : phase = .ended → last = .ended) : Fits after left last client stage := by
  have current (call : Call) (current : IsCurrent history client call) :
      IsCurrent after client call :=
    ⟨current.client, began call current.began,
      fun isOk gone => current.unreturned isOk (returned isOk call gone current.client)⟩
  cases stage with
  | idle => trivial
  | starting call | entering call =>
    refine ⟨current call fits.1, fun earlier present own => ?_⟩
    exact fits.2 earlier (entered earlier present own) own
  | awaiting call => exact ⟨current call fits.1, waiting call rfl fits.2.1, fits.2.2⟩
  | locking call | joining call => exact ⟨current call fits.1, fits.2⟩
  | returning call isOk =>
    cases isOk with
    | true =>
      exact ⟨current call fits.1, fun waits => handled call (fits.2.1 waits),
        fun stops => ended (fits.2.2 stops)⟩
    | false =>
      exact ⟨current call fits.1, fits.2.1,
        fun present => fits.2.2 (accepted call fits.1.client present)⟩

theorem Fits.phase {history : List Incident} {inbox : List Call} {phase last : Phase}
    {client : Nat} {stage : Stage} (fits : Fits history inbox phase client stage)
    (ended : phase = .ended → last = .ended) : Fits history inbox last client stage :=
  fits.frame (fun _ present => present) (fun _ present => present) (fun _ present _ => present)
    (fun _ _ present _ => present) (fun _ _ present => present) (fun _ _ present => present) ended

namespace Sound

variable {system : System}

theorem start (buffer inboxCapacity : Nat) : Sound (System.start buffer inboxCapacity) where
  recorded :=
    { begun := by intro _ _ present; cases present
      numbered := by intro _ present; cases present
      beganOrder := List.Pairwise.nil }
  course :=
    { stopLast := List.Pairwise.nil
      unstopped := by intro _ _ present; cases present
      undiscarded := fun _ => rfl
      stopped := fun other => absurd rfl other }
  enteredOrder := List.Pairwise.nil
  queue := rfl
  fits _ := trivial
  waits _ present := by cases present
  emptied _ := rfl
  joined gone := by cases gone

theorem entered_nodup (sound : Sound system) : (calls system.history .entered).Nodup := by
  refine sound.enteredOrder.imp ?_
  rintro first _ ordered rfl
  exact Nat.lt_irrefl _ (ordered rfl)

/-- A command that was handled or is still in the inbox has entered it. -/
theorem entered_of_accepted (sound : Sound system) {call : Call}
    (accepted : call ∈ calls system.history .handled ∨ call ∈ system.inbox) :
    call ∈ calls system.history .entered := by
  rw [sound.queue, List.mem_append, List.mem_append]
  rcases accepted with handled | waiting
  · exact Or.inl (Or.inl handled)
  · exact Or.inr waiting

/-- A client that has not put its command into the inbox finds it neither there nor handled. -/
theorem not_accepted_of_outside (sound : Sound system) {client : Nat} {call : Call}
    (own : call.client = client)
    (outside : ∀ earlier ∈ calls system.history .entered, earlier.client = client →
      earlier.number < call.number) :
    ¬(call ∈ calls system.history .handled ∨ call ∈ system.inbox) := by
  intro accepted
  exact Nat.lt_irrefl _ (outside call (sound.entered_of_accepted accepted) own)

theorem fits_turn (sound : Sound system) {client : Nat} {stage next : Stage}
    (stands : system.stages client = stage) (turns : System.Turn system stage next) :
    Fits system.history system.inbox system.phase client next := by
  have fits := sound.fits client
  rw [stands] at fits
  cases turns with
  | enter call => exact fits
  | refuse call outside =>
    obtain ⟨current, earlier⟩ : IsCurrent system.history client call ∧
        ∀ earlier ∈ calls system.history .entered, earlier.client = client →
          earlier.number < call.number := by
      rcases outside with rfl | rfl
      · exact fits
      · exact fits
    split
    · rename_i isStop
      exact ⟨current, isStop⟩
    · rename_i other
      exact ⟨current, by simpa using other, sound.not_accepted_of_outside current.client earlier⟩
  | join call => exact fits
  | pass call gone =>
    obtain ⟨current, isStop⟩ := fits
    exact ⟨current, fun waits => absurd waits (Call.not_isAcknowledged_of_isStop isStop),
      fun _ => sound.joined gone⟩
  | joined call ended =>
    obtain ⟨current, isStop⟩ := fits
    exact ⟨current, fun waits => absurd waits (Call.not_isAcknowledged_of_isStop isStop),
      fun _ => ended⟩

/-- Who turns to another stage is not waiting for the loop. -/
theorem not_awaiting_of_turn {stage next : Stage} (turns : System.Turn system stage next)
    (call : Call) : stage ≠ .awaiting call := by
  cases turns with
  | refuse call outside =>
    rcases outside with rfl | rfl
    · nofun
    · nofun
  | enter | join | pass | joined => nofun

/-- A client turns to another stage without any trace. -/
theorem turn (sound : Sound system) {client : Nat} {stage next : Stage}
    {isRunning hasHandle : Bool} {holder : Option Nat} (stands : system.stages client = stage)
    (turns : System.Turn system stage next)
    (gone : hasHandle = false → system.hasHandle = false ∨ system.phase = .ended) :
    Sound ({ system with
      isRunning := isRunning, holder := holder, hasHandle := hasHandle }.turn client next) := by
  refine { sound with fits := ?_, waits := ?_, joined := ?_ }
  · intro other
    simp only [System.turn]
    split
    · rename_i same
      rw [same]
      exact sound.fits_turn stands turns
    · exact sound.fits other
  · intro call present waits
    have awaiting := sound.waits call present waits
    simp only [System.turn]
    split
    · rename_i same
      rw [same, stands] at awaiting
      exact absurd awaiting (not_awaiting_of_turn turns call)
    · exact awaiting
  · intro noHandle
    exact (gone noHandle).elim sound.joined id

/-- A client begins a call, which has a number of its own. -/
theorem call (sound : Sound system) {client : Nat} (command : Command)
    (idle : system.stages client = .idle) : Sound (system.call client command) where
  recorded := sound.recorded.begin client command
  course := sound.course.note _ nofun nofun
  enteredOrder := by
    simpa [System.call, System.turn, System.note, calls_append] using sound.enteredOrder
  queue := by
    simpa [System.call, System.turn, System.note, calls_append] using sound.queue
  fits other := by
    simp only [System.call, System.turn, System.note]
    split
    · rename_i same
      refine ⟨⟨same.symm, mem_calls_append.mpr (Or.inr ⟨rfl, rfl⟩), fun isOk gone => ?_⟩, ?_⟩
      · simp only [mem_calls_append, reduceCtorEq, false_and, or_false] at gone
        exact Nat.lt_irrefl _ (sound.recorded.numbered _ (sound.recorded.begun _ _ gone))
      · intro earlier present _
        simp only [mem_calls_append, reduceCtorEq, false_and, or_false] at present
        exact sound.recorded.numbered _ (sound.recorded.begun _ _ present)
    · refine (sound.fits other).frame ?_ ?_ ?_ ?_ ?_ ?_ id <;>
        simp +contextual [mem_calls_append]
  waits call present waits := by
    have awaiting := sound.waits call present waits
    simp only [System.call, System.turn, System.note]
    split
    · rename_i same
      rw [same, idle] at awaiting
      cases awaiting
    · exact awaiting
  emptied := sound.emptied
  joined := sound.joined

/-- A command enters the inbox, behind all that its client has put there before. -/
theorem enter (sound : Sound system) {client : Nat} {call : Call}
    (stands : system.stages client = .entering call) (isOpen : system.isClosed = false) :
    Sound (system.enter client call) := by
  have fits := sound.fits client
  rw [stands] at fits
  obtain ⟨current, before⟩ := fits
  refine { sound with
    recorded := sound.recorded.note current.began nofun, course := sound.course.note _ nofun nofun,
    enteredOrder := ?_, queue := ?_, fits := ?_, waits := ?_, emptied := ?_ }
  · simp only [System.enter, System.turn, System.note, calls_append, if_true]
    refine List.pairwise_append.mpr ⟨sound.enteredOrder, List.pairwise_singleton _ _, ?_⟩
    intro first present second latest same
    obtain rfl := List.mem_singleton.mp latest
    exact before first present (same.trans current.client)
  · have queue := sound.queue
    simp [System.enter, System.turn, System.note, calls_append, queue]
  · intro other
    simp only [System.enter, System.turn, System.note]
    split
    · rename_i same
      subst same
      have stillCurrent : IsCurrent (system.history ++ [⟨.entered, call⟩]) other call := by
        refine ⟨current.client, mem_calls_append.mpr (Or.inl current.began), fun isOk gone => ?_⟩
        simp only [mem_calls_append, reduceCtorEq, false_and, or_false] at gone
        exact current.unreturned isOk gone
      split
      · rename_i isStop
        exact ⟨stillCurrent, isStop⟩
      · rename_i noStop
        split
        · rename_i waits
          exact ⟨stillCurrent, by simp, waits⟩
        · rename_i free
          exact ⟨stillCurrent, fun waits => absurd waits free, fun isStop => absurd isStop noStop⟩
    · rename_i different
      have foreign : ∀ own : Call, own.client = other → own ≠ call := by
        rintro own ownClient rfl
        exact different (ownClient.symm.trans current.client)
      -- the call is not one of the other client, whose stage depends on its own calls alone
      refine (sound.fits other).frame ?_ ?_ ?_ ?_ ?_ ?_ id
      · simp +contextual [mem_calls_append]
      · simp +contextual [mem_calls_append]
      · intro own present ownClient
        simpa [mem_calls_append, foreign own ownClient] using present
      · simp +contextual [mem_calls_append]
      · intro own ownClient present
        simpa [mem_calls_append, foreign own ownClient] using present
      · intro own _ present
        exact List.mem_append_left _ present
  · intro own present waits
    simp only [System.enter, System.turn, System.note]
    rcases List.mem_append.mp present with earlier | latest
    · have awaiting := sound.waits own earlier waits
      split
      · rename_i same
        rw [same, stands] at awaiting
        cases awaiting
      · exact awaiting
    · obtain rfl := List.mem_singleton.mp latest
      have noStop : ¬own.isStop = true := fun isStop =>
        Call.not_isAcknowledged_of_isStop isStop waits
      rw [if_pos current.client, if_neg noStop, if_pos waits]
  · intro ended
    have phase : system.phase = .ended := ended
    simp [System.isClosed, phase] at isOpen

/-- A call returns, and its client is idle again. -/
theorem finish (sound : Sound system) {client : Nat} {call : Call} {isOk : Bool}
    (stands : system.stages client = .returning call isOk) :
    Sound (system.finish client call isOk) := by
  have fits := sound.fits client
  have current : IsCurrent system.history client call := by
    rw [stands] at fits
    cases isOk with
    | true => exact fits.1
    | false => exact fits.1
  obtain ⟨loop, finished⟩ := system.finish_eq client call isOk
  rw [finished]
  refine { sound with
    recorded := sound.recorded.note current.began nofun, course := sound.course.note _ nofun nofun,
    enteredOrder := ?_, queue := ?_, fits := ?_, waits := ?_ }
  · simpa [System.turn, System.note, calls_append] using sound.enteredOrder
  · simpa [System.turn, System.note, calls_append] using sound.queue
  · intro other
    simp only [System.turn, System.note]
    split
    · trivial
    · rename_i different
      refine (sound.fits other).frame ?_ ?_ ?_ ?_ ?_ ?_ id
      · simp +contextual [mem_calls_append]
      · simp +contextual [mem_calls_append]
      · simp +contextual [mem_calls_append]
      · intro granted own present ownClient
        have foreign : own ≠ call := by
          rintro rfl
          exact different (ownClient.symm.trans current.client)
        simpa [mem_calls_append, foreign] using present
      · simp +contextual [mem_calls_append]
      · simp +contextual
  · intro own present waits
    have awaiting := sound.waits own present waits
    simp only [System.turn, System.note]
    split
    · rename_i same
      rw [same, stands] at awaiting
      cases awaiting
    · exact awaiting

section Taken

variable {call : Call} {rest : List Call}

theorem mem_inbox (next : system.inbox = call :: rest) : call ∈ system.inbox := by simp [next]

theorem began_of_next (sound : Sound system) (next : system.inbox = call :: rest) :
    call ∈ calls system.history .began :=
  sound.recorded.begun .entered call (sound.entered_of_accepted (Or.inr (mem_inbox next)))

/-- The next command is taken once, and has not been handled. -/
theorem next_is_new (sound : Sound system) (next : system.inbox = call :: rest) :
    call ∉ calls system.history .handled ∧ call ∉ rest := by
  have nodup := sound.entered_nodup
  rw [sound.queue, next, List.nodup_append] at nodup
  obtain ⟨-, nodupInbox, apart⟩ := nodup
  constructor
  · intro handled
    exact apart call (List.mem_append_left _ handled) call List.mem_cons_self rfl
  · exact (List.nodup_cons.mp nodupInbox).1

theorem waits_of_taken (sound : Sound system) (next : system.inbox = call :: rest) {own : Call}
    (present : own ∈ rest) (waits : own.isAcknowledged = true) :
    system.stages own.client = .awaiting own ∧
      ¬(call.isAcknowledged = true ∧ own.client = call.client) := by
  have awaiting := sound.waits own (next ▸ List.mem_cons_of_mem call present) waits
  refine ⟨awaiting, ?_⟩
  rintro ⟨callWaits, same⟩
  have awaitingCall := sound.waits call (mem_inbox next) callWaits
  rw [← same, awaiting] at awaitingCall
  cases awaitingCall
  exact (sound.next_is_new next).2 present

/-- A client that is not told anything stays where it is. -/
theorem fits_of_taken (sound : Sound system) (next : system.inbox = call :: rest)
    {occasion : Occasion} (taken : occasion = .handled ∨ occasion = .discarded) {phase : Phase}
    (running : system.phase ≠ .ended) {other : Nat}
    (untold : ¬(call.isAcknowledged = true ∧ other = call.client)) :
    Fits (system.history ++ [⟨occasion, call⟩]) rest phase other (system.stages other) := by
  refine (sound.fits other).frame ?_ ?_ ?_ ?_ ?_ ?_ fun ended => absurd ended running
  · simp +contextual [mem_calls_append]
  · simp +contextual [mem_calls_append]
  · rcases taken with rfl | rfl <;> simp +contextual [mem_calls_append]
  · rcases taken with rfl | rfl <;> simp +contextual [mem_calls_append]
  · intro own _ present
    rw [mem_calls_append] at present
    rcases present with (handled | ⟨-, rfl⟩) | waiting
    · exact Or.inl handled
    · exact Or.inr (mem_inbox next)
    · exact Or.inr (next ▸ List.mem_cons_of_mem call waiting)
  · intro own awaiting present
    have fits := sound.fits other
    rw [awaiting] at fits
    rw [next] at present
    rcases List.mem_cons.mp present with rfl | behind
    · exact absurd ⟨fits.2.2, fits.1.client.symm⟩ untold
    · exact behind

/-- The client that waits for the next command is at that call still. -/
theorem current_of_next (sound : Sound system) (next : system.inbox = call :: rest)
    (waits : call.isAcknowledged = true) {occasion : Occasion}
    (taken : occasion = .handled ∨ occasion = .discarded) :
    IsCurrent (system.history ++ [⟨occasion, call⟩]) call.client call := by
  have fits := sound.fits call.client
  rw [sound.waits call (mem_inbox next) waits] at fits
  refine ⟨rfl, mem_calls_append.mpr (Or.inl fits.1.began), fun isOk gone => ?_⟩
  rw [mem_calls_append] at gone
  rcases gone with earlier | ⟨same, -⟩
  · exact fits.1.unreturned isOk earlier
  · rcases taken with rfl | rfl <;> cases same

/-- The command that stops the loop is the last one it handles. -/
theorem leave (sound : Sound system) (serving : system.phase = .serving)
    (next : system.inbox = call :: rest) (isStop : call.isStop = true) :
    Sound ({ system with inbox := rest, phase := .leaving }.note .handled call) where
  recorded := sound.recorded.note (sound.began_of_next next) nofun
  course := by
    have course := sound.course
    rw [serving] at course
    exact course.handle (by simp [System.note, isStop])
  enteredOrder := by simpa [System.note, calls_append] using sound.enteredOrder
  queue := by
    have queue := sound.queue
    have kept := sound.course.undiscarded (Or.inl serving)
    simp [System.note, calls_append, queue, next, kept]
  fits other := by
    have silent := Call.not_isAcknowledged_of_isStop isStop
    refine sound.fits_of_taken next (Or.inl rfl) (by simp [serving]) ?_
    exact fun told => silent told.1
  waits own present waits := (sound.waits_of_taken next present waits).1
  emptied late := by cases late
  joined gone := by
    have ended := sound.joined gone
    rw [serving] at ended
    cases ended

/-- Any other command is handled and, where a client waits for that, acknowledged. -/
theorem handle (sound : Sound system) (serving : system.phase = .serving)
    (next : system.inbox = call :: rest) (isStop : call.isStop = false) (loop : Loop) :
    Sound (({ system with inbox := rest, loop := loop }.note .handled call).acknowledge call true)
    := by
  rw [System.acknowledge_eq]
  refine { sound with
    recorded := sound.recorded.note (sound.began_of_next next) nofun, course := ?_,
    enteredOrder := ?_, queue := ?_, fits := ?_, waits := ?_, emptied := ?_ }
  · have course := sound.course
    rw [serving] at course
    exact course.handle (by simp [System.note, isStop, serving])
  · simpa [System.note, calls_append] using sound.enteredOrder
  · have queue := sound.queue
    have kept := sound.course.undiscarded (Or.inl serving)
    simp [System.note, calls_append, queue, next, kept]
  · intro other
    simp only [System.note]
    split
    · rename_i told
      obtain ⟨waits, rfl⟩ := told
      refine ⟨sound.current_of_next next waits (Or.inl rfl), fun _ => ?_, fun stops => ?_⟩
      · exact mem_calls_append.mpr (Or.inr ⟨rfl, rfl⟩)
      · rw [isStop] at stops
        cases stops
    · rename_i untold
      exact sound.fits_of_taken next (Or.inl rfl) (by simp [serving]) untold
  · intro own present waits
    obtain ⟨awaiting, untold⟩ := sound.waits_of_taken next present waits
    simp only [System.note, if_neg untold]
    exact awaiting
  · intro ended
    exact absurd (serving.symm.trans ended) (by simp)

/-- A command behind the one that stopped the loop is discarded, and its client learns that. -/
theorem discard (sound : Sound system) (draining : system.phase = .draining)
    (next : system.inbox = call :: rest) :
    Sound (({ system with inbox := rest }.note .discarded call).acknowledge call false) := by
  rw [System.acknowledge_eq]
  refine { sound with
    recorded := sound.recorded.note (sound.began_of_next next) nofun, course := ?_,
    enteredOrder := ?_, queue := ?_, fits := ?_, waits := ?_, emptied := ?_ }
  · have course := sound.course
    rw [draining] at course
    rw [System.note, draining]
    exact course.discard call
  · simpa [System.note, calls_append] using sound.enteredOrder
  · have queue := sound.queue
    simp [System.note, calls_append, queue, next]
  · intro other
    simp only [System.note]
    split
    · rename_i told
      obtain ⟨waits, rfl⟩ := told
      obtain ⟨unhandled, gone⟩ := sound.next_is_new next
      refine ⟨sound.current_of_next next waits (Or.inr rfl), ?_, ?_⟩
      · have noStop : ¬call.isStop = true := fun isStop =>
          Call.not_isAcknowledged_of_isStop isStop waits
        simpa using noStop
      · simpa [mem_calls_append] using ⟨unhandled, gone⟩
    · rename_i untold
      exact sound.fits_of_taken next (Or.inr rfl) (by simp [draining]) untold
  · intro own present waits
    obtain ⟨awaiting, untold⟩ := sound.waits_of_taken next present waits
    simp only [System.note, if_neg untold]
    exact awaiting
  · intro ended
    exact absurd (draining.symm.trans ended) (by simp)

end Taken

theorem close (sound : Sound system) (leaving : system.phase = .leaving) :
    Sound { system with phase := .draining } := by
  refine { sound with course := ?_, fits := ?_, emptied := nofun, joined := ?_ }
  · exact sound.course.advance (by simp [leaving]) (Or.inl rfl)
  · intro client
    exact (sound.fits client).phase fun ended => absurd (leaving.symm.trans ended) (by simp)
  · exact fun gone => absurd (leaving.symm.trans (sound.joined gone)) (by simp)

theorem finishLoop (sound : Sound system) (draining : system.phase = .draining)
    (empty : system.inbox = []) (loop : Loop) :
    Sound { system with loop := loop, phase := .ended } := by
  refine { sound with course := ?_, fits := ?_, emptied := ?_, joined := ?_ }
  · exact sound.course.advance (by simp [draining]) (Or.inr rfl)
  · exact fun client => (sound.fits client).phase fun _ => rfl
  · exact fun _ => empty
  · exact fun _ => rfl

theorem transition {after : System} (sound : Sound system)
    (transition : System.Transition system after) : Sound after := by
  cases transition with
  | stay => exact sound
  | turn stands turns gone => exact sound.turn stands turns gone
  | subscribe idle =>
    have created : Sound system.create := { sound with }
    exact created.call _ idle
  | call idle other => exact sound.call _ idle
  | enter stands isOpen => exact sound.enter stands isOpen
  | finish stands => exact sound.finish stands
  | leave serving next isStop => exact sound.leave serving next isStop
  | handle serving next isStop => exact sound.handle serving next isStop _
  | close leaving => exact sound.close leaving
  | discard draining next => exact sound.discard draining next
  | finishLoop draining empty => exact sound.finishLoop draining empty _
  | receive id => exact { sound with }
  | detach id => exact { sound with }

theorem run (buffer inboxCapacity : Nat) (moves : List Move) :
    Sound ((System.start buffer inboxCapacity).run moves) :=
  System.run_induction Sound (start buffer inboxCapacity)
    (fun _ _ sound transition => sound.transition transition) moves

end Sound
end Dashboard.Hub
