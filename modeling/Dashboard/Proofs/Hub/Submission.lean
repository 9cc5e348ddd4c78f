import Dashboard.Proofs.Hub.FanOut

/-! Clients on several threads and the loop, one atomic action at a time. A call first reads whether
the hub is running and only then puts its command into the inbox, so that commands can land behind the
one that stops the loop. The loop that is stopped closes the inbox, discards what is still in it and
closes the live subscriptions; whoever stops the hub waits for the end of that. -/

namespace Dashboard.Hub

/-- What a client wants from the hub. -/
inductive Wish where
  | subscribe
  | unregister (id : Id)
  | publish (event : Event)
  | stop

/-- What the hub is asked to do. -/
def Wish.command (nextId : Id) : Wish → Command
  | subscribe => .register nextId
  | unregister id => .unregister id
  | publish event => .publish event
  | stop => .stop

/-- One call of a client. Calls are numbered in the order in which they begin. -/
structure Call where
  number : Nat
  client : Nat
  command : Command

namespace Call

/-- Whether the client waits until the loop has handled the command. -/
def isAcknowledged (call : Call) : Bool :=
  match call.command with
  | .register _ | .unregister _ => true
  | .publish _ | .stop => false

def isStop (call : Call) : Bool :=
  match call.command with
  | .stop => true
  | _ => false

theorem not_isAcknowledged_of_isStop {call : Call} (isStop : call.isStop = true) :
    ¬call.isAcknowledged = true := by
  obtain ⟨number, client, command⟩ := call
  cases command <;> simp [Call.isStop, isAcknowledged] at *

end Call

/-- What happens to a call. Its command enters the inbox, if the hub is still running, and is handled
or discarded by the loop; the client is told whether the hub was stopped. -/
inductive Occasion where
  | began
  | entered
  | handled
  | discarded
  | returned (isOk : Bool)
deriving DecidableEq, Repr

/-- Something that has happened to a call. -/
structure Incident where
  occasion : Occasion
  call : Call

/-- How far a client has come with its call. -/
inductive Stage where
  | idle
  | starting (call : Call)
  /-- About to put the command into the inbox, as soon as there is room. -/
  | entering (call : Call)
  | awaiting (call : Call)
  /-- Waiting for the lock on the handle of the loop. -/
  | locking (call : Call)
  /-- Waiting for the end of the loop, with the lock in hand. -/
  | joining (call : Call)
  | returning (call : Call) (isOk : Bool)

/-- How far the loop has come: it handles commands, has been told to stop, has closed the inbox, has
ended. -/
inductive Phase where
  | serving
  | leaving
  | draining
  | ended
deriving DecidableEq, Repr

/-- The hub, its inbox and its clients, and everything that has happened to calls. -/
structure System where
  loop : Loop
  nextId : Id
  isRunning : Bool
  capacity : Nat
  inbox : List Call
  phase : Phase
  stages : Nat → Stage
  /-- Who has the lock on the handle of the loop. -/
  holder : Option Nat
  hasHandle : Bool
  nextCall : Nat
  history : List Incident

namespace System

def start (buffer inboxCapacity : Nat) : System where
  loop := .start buffer
  nextId := 1
  isRunning := true
  capacity := max inboxCapacity 1
  inbox := []
  phase := .serving
  stages _ := .idle
  holder := none
  hasHandle := true
  nextCall := 0
  history := []

def note (system : System) (occasion : Occasion) (call : Call) : System :=
  { system with history := system.history ++ [⟨occasion, call⟩] }

def turn (system : System) (client : Nat) (stage : Stage) : System :=
  { system with stages := fun other => if other = client then stage else system.stages other }

def call (system : System) (client : Nat) (command : Command) : System :=
  ({ system with nextCall := system.nextCall + 1 }.note .began
    ⟨system.nextCall, client, command⟩).turn client (.starting ⟨system.nextCall, client, command⟩)

def create (system : System) : System :=
  { system with loop := system.loop.create system.nextId, nextId := system.nextId + 1 }

def prepare (system : System) : Wish → System
  | .subscribe => system.create
  | .unregister _ | .publish _ | .stop => system

/-- A client that is idle begins a call. -/
def begin (system : System) (client : Nat) (wish : Wish) : System :=
  match system.stages client with
  | .idle => (system.prepare wish).call client (wish.command system.nextId)
  | .starting _ | .entering _ | .awaiting _ | .locking _ | .joining _ | .returning _ _ => system

/-- A call finds the hub stopped, which is all the same to one that is to stop it. -/
def refuse (system : System) (client : Nat) (call : Call) : System :=
  system.turn client (if call.isStop then .locking call else .returning call false)

def enter (system : System) (client : Nat) (call : Call) : System :=
  ({ system with inbox := system.inbox ++ [call] }.note .entered call).turn client
    (if call.isStop then .locking call
    else if call.isAcknowledged then .awaiting call
    else .returning call true)

/-- A call returns. The subscription of one that failed goes away with it. -/
def finish (system : System) (client : Nat) (call : Call) (isOk : Bool) : System :=
  let system := (system.note (.returned isOk) call).turn client .idle
  match call.command, isOk with
  | .register id, false => { system with loop := system.loop.step (.detach id) }
  | _, _ => system

theorem finish_eq (system : System) (client : Nat) (call : Call) (isOk : Bool) :
    ∃ loop, system.finish client call isOk =
      { (system.note (.returned isOk) call).turn client .idle with loop := loop } := by
  simp only [finish]
  split
  · exact ⟨_, rfl⟩
  · exact ⟨_, rfl⟩

def isClosed (system : System) : Bool :=
  match system.phase with
  | .serving | .leaving => false
  | .draining | .ended => true

/-- A client goes on with its call, if it can. -/
def advance (system : System) (client : Nat) : System :=
  match system.stages client with
  | .idle | .awaiting _ => system
  | .starting call =>
    if system.isRunning then
      { system with isRunning := !call.isStop }.turn client (.entering call)
    else system.refuse client call
  | .entering call =>
    if system.isClosed then system.refuse client call
    else if system.inbox.length < system.capacity then system.enter client call
    else system
  | .locking call =>
    match system.holder with
    | some _ => system
    | none =>
      if system.hasHandle then { system with holder := some client }.turn client (.joining call)
      else system.turn client (.returning call true)
  | .joining call =>
    if system.phase = .ended then
      { system with hasHandle := false, holder := none }.turn client (.returning call true)
    else system
  | .returning call isOk => system.finish client call isOk

/-- Tells a client that waits for it what has become of its command. -/
def acknowledge (system : System) (call : Call) (isOk : Bool) : System :=
  if call.isAcknowledged then system.turn call.client (.returning call isOk) else system

theorem acknowledge_eq (system : System) (call : Call) (isOk : Bool) :
    system.acknowledge call isOk =
      { system with
        stages := fun other =>
          if call.isAcknowledged = true ∧ other = call.client then .returning call isOk
          else system.stages other } := by
  by_cases waits : call.isAcknowledged = true
  · simp [acknowledge, turn, waits]
  · simp [acknowledge, waits]

def serve (system : System) : System :=
  match system.phase, system.inbox with
  | .serving, call :: rest =>
    if call.isStop then { system with inbox := rest, phase := .leaving }.note .handled call
    else
      ({ system with
        inbox := rest
        loop := (system.loop.handle call.command).1 }.note .handled call).acknowledge call true
  | .serving, [] => system
  | .leaving, _ => { system with phase := .draining }
  | .draining, call :: rest =>
    ({ system with inbox := rest }.note .discarded call).acknowledge call false
  | .draining, [] => { system with loop := system.loop.stop.1, phase := .ended }
  | .ended, _ => system

end System

/-- What can come next in an interleaving. -/
inductive Move where
  | begin (client : Nat) (wish : Wish)
  | advance (client : Nat)
  | serve
  | receive (id : Id)
  | detach (id : Id)

namespace System

/-- One move. Nothing happens where it has to wait. -/
def step (system : System) : Move → System
  | .begin client wish => system.begin client wish
  | .advance client => system.advance client
  | .serve => system.serve
  | .receive id => { system with loop := system.loop.step (.receive id) }
  | .detach id => { system with loop := system.loop.step (.detach id) }

def run (system : System) (moves : List Move) : System := moves.foldl step system

theorem run_append (system : System) (moves more : List Move) :
    system.run (moves ++ more) = (system.run moves).run more := by
  simp [run]

end System

/-- One entry of a list comes before another. -/
def Precedes {α : Type} (list : List α) (first second : α) : Prop := [first, second].Sublist list

namespace Precedes

variable {α : Type} {list : List α} {first second latest : α}

theorem append_singleton :
    Precedes (list ++ [latest]) first second ↔
      Precedes list first second ∨ second = latest ∧ first ∈ list := by
  constructor
  · intro precedes
    obtain ⟨front, back, split, inFront, inBack⟩ := List.sublist_append_iff.mp precedes
    cases back with
    | nil =>
      rw [List.append_nil] at split
      subst split
      exact Or.inl inFront
    | cons entry rest =>
      obtain ⟨rfl, rfl⟩ : entry = latest ∧ rest = [] := by simpa using inBack.eq_of_length_le (by simp)
      obtain ⟨rfl, rfl⟩ : front = [first] ∧ entry = second := by
        have ends := List.append_inj' (show [first] ++ [second] = front ++ [entry] from split) rfl
        exact ⟨ends.1.symm, (List.singleton_inj.mp ends.2).symm⟩
      exact Or.inr ⟨rfl, List.singleton_sublist.mp inFront⟩
  · rintro (precedes | ⟨rfl, present⟩)
    · exact precedes.trans (List.sublist_append_left _ _)
    · exact List.Sublist.append (List.singleton_sublist.mpr present) (List.Sublist.refl [second])

theorem left_mem (precedes : Precedes list first second) : first ∈ list := precedes.mem (by simp)

theorem append (precedes : Precedes list first second) (more : List α) :
    Precedes (list ++ more) first second :=
  precedes.trans (List.sublist_append_left _ _)

theorem of_mem (present : first ∈ list) : Precedes (list ++ [second]) first second :=
  append_singleton.mpr (Or.inr ⟨rfl, present⟩)

/-- Of two entries of an ordered list, the one that cannot stand behind the other stands before it. -/
theorem of_pairwise {relation : α → α → Prop} (ordered : list.Pairwise relation)
    (firstPresent : first ∈ list) (secondPresent : second ∈ list) (different : first ≠ second)
    (cannot : ¬relation second first) : Precedes list first second := by
  induction list with
  | nil => cases firstPresent
  | cons head rest inductionHypothesis =>
    obtain ⟨before, orderedRest⟩ := List.pairwise_cons.mp ordered
    rcases List.mem_cons.mp firstPresent with rfl | firstBehind
    · rcases List.mem_cons.mp secondPresent with rfl | secondBehind
      · exact absurd rfl different
      · exact List.Sublist.cons_cons first (List.singleton_sublist.mpr secondBehind)
    · rcases List.mem_cons.mp secondPresent with rfl | secondBehind
      · exact absurd (before first firstBehind) cannot
      · exact (inductionHypothesis orderedRest firstBehind secondBehind).cons head

end Precedes

/-- The calls to which something has happened, in the order in which it did. -/
def calls (history : List Incident) (occasion : Occasion) : List Call :=
  (history.filter (·.occasion = occasion)).map Incident.call

theorem mem_calls {history : List Incident} {occasion : Occasion} {call : Call} :
    call ∈ calls history occasion ↔ ⟨occasion, call⟩ ∈ history := by
  simp only [calls, List.mem_map, List.mem_filter, decide_eq_true_eq]
  constructor
  · rintro ⟨incident, ⟨present, rfl⟩, rfl⟩
    exact present
  · intro present
    exact ⟨_, ⟨present, rfl⟩, rfl⟩

theorem calls_append (history : List Incident) (occasion other : Occasion) (call : Call) :
    calls (history ++ [⟨occasion, call⟩]) other =
      calls history other ++ if occasion = other then [call] else [] := by
  by_cases same : occasion = other
  · simp [calls, same]
  · simp [calls, same]

theorem mem_calls_append {history : List Incident} {occasion other : Occasion} {call added : Call} :
    call ∈ calls (history ++ [⟨occasion, added⟩]) other ↔
      call ∈ calls history other ∨ occasion = other ∧ call = added := by
  rw [calls_append]
  by_cases same : occasion = other
  · simp [same]
  · simp [same]

theorem precedes_of_calls {history : List Incident} {occasion : Occasion} {first second : Call}
    (precedes : Precedes (calls history occasion) first second) :
    Precedes history ⟨occasion, first⟩ ⟨occasion, second⟩ := by
  obtain ⟨selected, inOrder, same⟩ := List.sublist_map_iff.mp precedes
  obtain ⟨left, rest, rfl, rfl, restSame⟩ := List.map_eq_cons_iff.mp same.symm
  obtain ⟨right, remainder, rfl, rfl, noneLeft⟩ := List.map_eq_cons_iff.mp restSame
  obtain rfl := List.map_eq_nil_iff.mp noneLeft
  obtain ⟨leftOccasion, leftCall⟩ := left
  obtain ⟨rightOccasion, rightCall⟩ := right
  obtain rfl : leftOccasion = occasion := by
    simpa using (List.mem_filter.mp (inOrder.mem List.mem_cons_self)).2
  obtain rfl : rightOccasion = leftOccasion := by
    simpa using (List.mem_filter.mp (inOrder.mem (List.mem_cons_of_mem _ List.mem_cons_self))).2
  exact inOrder.trans List.filter_sublist

namespace System

/-- How a client can turn from one stage to another without any trace. -/
inductive Turn (system : System) : Stage → Stage → Prop where
  | enter (call : Call) : Turn system (.starting call) (.entering call)
  | refuse {stage : Stage} (call : Call) (outside : stage = .starting call ∨ stage = .entering call) :
      Turn system stage (if call.isStop then .locking call else .returning call false)
  | join (call : Call) : Turn system (.locking call) (.joining call)
  | pass (call : Call) (gone : system.hasHandle = false) :
      Turn system (.locking call) (.returning call true)
  | joined (call : Call) (ended : system.phase = .ended) :
      Turn system (.joining call) (.returning call true)

inductive Transition (system : System) : System → Prop where
  | stay : Transition system system
  | turn {client : Nat} {stage next : Stage} {isRunning hasHandle : Bool} {holder : Option Nat}
      (stands : system.stages client = stage) (turns : Turn system stage next)
      (gone : hasHandle = false → system.hasHandle = false ∨ system.phase = .ended) :
      Transition system ({ system with
        isRunning := isRunning, holder := holder, hasHandle := hasHandle }.turn client next)
  | subscribe {client : Nat} (idle : system.stages client = .idle) :
      Transition system (system.create.call client (.register system.nextId))
  | call {client : Nat} {command : Command} (idle : system.stages client = .idle)
      (other : ∀ id, command ≠ .register id) : Transition system (system.call client command)
  | enter {client : Nat} {call : Call} (stands : system.stages client = .entering call)
      (isOpen : system.isClosed = false) : Transition system (system.enter client call)
  | finish {client : Nat} {call : Call} {isOk : Bool}
      (stands : system.stages client = .returning call isOk) :
      Transition system (system.finish client call isOk)
  | leave {call : Call} {rest : List Call} (serving : system.phase = .serving)
      (next : system.inbox = call :: rest) (isStop : call.isStop = true) :
      Transition system ({ system with inbox := rest, phase := .leaving }.note .handled call)
  | handle {call : Call} {rest : List Call} (serving : system.phase = .serving)
      (next : system.inbox = call :: rest) (isStop : call.isStop = false) :
      Transition system (({ system with
        inbox := rest
        loop := (system.loop.handle call.command).1 }.note .handled call).acknowledge call true)
  | close (leaving : system.phase = .leaving) : Transition system { system with phase := .draining }
  | discard {call : Call} {rest : List Call} (draining : system.phase = .draining)
      (next : system.inbox = call :: rest) :
      Transition system
        (({ system with inbox := rest }.note .discarded call).acknowledge call false)
  | finishLoop (draining : system.phase = .draining) (empty : system.inbox = []) :
      Transition system { system with loop := system.loop.stop.1, phase := .ended }
  | receive (id : Id) : Transition system { system with loop := system.loop.step (.receive id) }
  | detach (id : Id) : Transition system { system with loop := system.loop.step (.detach id) }

theorem begin_transition (system : System) (client : Nat) (wish : Wish) :
    Transition system (system.begin client wish) := by
  cases stands : system.stages client with
  | idle =>
    simp only [begin, stands]
    cases wish with
    | subscribe => exact .subscribe stands
    | unregister id | publish event | stop => exact .call stands nofun
  | starting call | entering call | awaiting call => simpa only [begin, stands] using .stay
  | locking call | joining call => simpa only [begin, stands] using .stay
  | returning call isOk => simpa only [begin, stands] using .stay

theorem advance_transition (system : System) (client : Nat) :
    Transition system (system.advance client) := by
  have gone : system.hasHandle = false → system.hasHandle = false ∨ system.phase = .ended := Or.inl
  cases stands : system.stages client with
  | idle => simpa only [advance, stands] using Transition.stay
  | awaiting call => simpa only [advance, stands] using Transition.stay
  | starting call =>
    simp only [advance, stands]
    split
    · exact .turn stands (.enter call) gone
    · exact .turn stands (.refuse call (Or.inl rfl)) gone
  | entering call =>
    simp only [advance, stands]
    split
    · exact .turn stands (.refuse call (Or.inr rfl)) gone
    · rename_i isOpen
      split
      · exact .enter stands (by simpa using isOpen)
      · exact .stay
  | locking call =>
    simp only [advance, stands]
    split
    · exact .stay
    · split
      · exact .turn stands (.join call) gone
      · rename_i handle
        exact .turn stands (.pass call (by simpa using handle)) gone
  | joining call =>
    simp only [advance, stands]
    split
    · rename_i ended
      exact .turn stands (.joined call ended) fun _ => Or.inr ended
    · exact .stay
  | returning call isOk => simpa only [advance, stands] using Transition.finish stands

theorem serve_transition (system : System) : Transition system system.serve := by
  cases phase : system.phase with
  | serving =>
    cases next : system.inbox with
    | nil => simpa only [serve, phase, next] using Transition.stay
    | cons call rest =>
      simp only [serve, phase, next]
      split
      · rename_i isStop
        exact .leave phase next isStop
      · rename_i isStop
        have handled := Transition.handle phase next (by simpa using isStop)
        rwa [phase] at handled
  | leaving => simpa only [serve, phase] using Transition.close phase
  | draining =>
    cases next : system.inbox with
    | nil => simpa only [serve, phase, next] using Transition.finishLoop phase next
    | cons call rest => simpa only [serve, phase, next] using Transition.discard phase next
  | ended => simpa only [serve, phase] using Transition.stay

theorem step_transition (system : System) (move : Move) : Transition system (system.step move) := by
  cases move with
  | begin client wish => exact system.begin_transition client wish
  | advance client => exact system.advance_transition client
  | serve => exact system.serve_transition
  | receive id => exact .receive id
  | detach id => exact .detach id

/-- What holds at the start and is kept by every transition holds after every run. -/
theorem run_induction (invariant : System → Prop) {system : System} (initial : invariant system)
    (kept : ∀ before after, invariant before → Transition before after → invariant after)
    (moves : List Move) : invariant (system.run moves) := by
  induction moves generalizing system with
  | nil => exact initial
  | cons move rest inductionHypothesis =>
    exact inductionHypothesis (kept system _ initial (system.step_transition move))

end System
end Dashboard.Hub
