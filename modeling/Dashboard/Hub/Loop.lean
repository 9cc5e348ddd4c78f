import Dashboard.Hub.Mailbox
import Dashboard.Log.Line

/-! The loop that owns the live subscriptions. It handles one command after another; an event is
offered to every live subscription, and those that cannot take it are removed, so that a slow reader
never delays the others. -/

namespace Dashboard.Hub

/-- What has happened since the start. The numbers have no bound; counters of 64 bits would wrap
only after `2 ^ 64` registrations or deliveries, which no run comes to. -/
structure Counters where
  registrations : Nat
  active : Nat
  published : Nat
  delivered : Nat
  evictions : Nat
  unregistrations : Nat
deriving DecidableEq, Repr

namespace Counters

def zero : Counters := ⟨0, 0, 0, 0, 0, 0⟩

def register (counters : Counters) : Counters :=
  { counters with registrations := counters.registrations + 1, active := counters.active + 1 }

def unregister (counters : Counters) : Counters :=
  { counters with unregistrations := counters.unregistrations + 1, active := counters.active - 1 }

def evict (counters : Counters) : Counters :=
  { counters with evictions := counters.evictions + 1, active := counters.active - 1 }

def publish (counters : Counters) : Counters := { counters with published := counters.published + 1 }

def deliver (counters : Counters) (count : Nat) : Counters :=
  { counters with delivered := counters.delivered + count }

end Counters

inductive Command where
  | register (id : Id)
  | unregister (id : Id)
  | publish (event : Event)
  | stop

/-- The state of the loop: the live subscriptions in the order of their registration, and every
subscription there has ever been. -/
structure Loop where
  capacity : Nat
  live : List Id
  mailboxes : List (Id × Mailbox)
  counters : Counters
  hasEnded : Bool

namespace Loop

/-- A queue holds at least one event. -/
def start (buffer : Nat) : Loop := ⟨max buffer 1, [], [], .zero, false⟩

def mailbox? (loop : Loop) (id : Id) : Option Mailbox := loop.mailboxes.lookup id

/-- Applies a change to the mailbox with the given number. -/
def change (id : Id) (change : Mailbox → Mailbox) : List (Id × Mailbox) → List (Id × Mailbox) :=
  List.map fun entry => if entry.1 = id then (id, change entry.2) else entry

def alter (loop : Loop) (id : Id) (change' : Mailbox → Mailbox) : Loop :=
  { loop with mailboxes := change id change' loop.mailboxes }

def record (level : Log.Level) (message : String) : Log.Record := ⟨.hub, level, message⟩

def register (loop : Loop) (id : Id) : Loop × List Log.Record :=
  let live := loop.live.filter (· ≠ id) ++ [id]
  ({ loop with
      live := live
      mailboxes := change id (Mailbox.setState .active) loop.mailboxes
      counters := loop.counters.register },
    [record .debug ("Subscriber " ++ toString id ++ " registered (active=" ++
      toString live.length ++ ")")])

def remove (loop : Loop) (id : Id) (state : State) : Loop :=
  { loop with
    live := loop.live.filter (· ≠ id)
    mailboxes := change id (Mailbox.setState state) loop.mailboxes }

/-- Removes a subscription on request; what is not live is passed over. -/
def unregister (loop : Loop) (id : Id) : Loop × List Log.Record :=
  if id ∈ loop.live then
    ({ loop.remove id .unregistered with counters := loop.counters.unregister },
      [record .debug ("Subscriber " ++ toString id ++ " unregistered")])
  else (loop, [])

/-- What becomes of an event that a subscription is offered. -/
def outcome (loop : Loop) (event : Event) (id : Id) : Mailbox.Outcome :=
  match loop.mailbox? id with
  | some mailbox => (mailbox.offer loop.capacity event).1
  | none => .readerGone

/-- Removes a subscription that could not take an event. -/
def drop (loop : Loop) (event : Event) (id : Id) (outcome : Mailbox.Outcome) :
    Loop × List Log.Record :=
  match outcome with
  | .accepted => (loop, [])
  | .full =>
    ({ loop.remove id .evicted with counters := loop.counters.evict },
      [record .warning ("Subscriber " ++ toString id ++ " evicted (queue full on '" ++
        event.kind.code ++ "')")])
  | .readerGone =>
    ({ loop.remove id .unregistered with counters := loop.counters.unregister },
      [record .debug ("Subscriber " ++ toString id ++ " went away")])

/-- Removes the subscriptions that could not take an event. -/
def dropAll (event : Event) : List (Id × Mailbox.Outcome) → Loop → Loop × List Log.Record
  | [], loop => (loop, [])
  | (id, outcome) :: rest, loop =>
    let (loop, records) := loop.drop event id outcome
    let (loop, more) := dropAll event rest loop
    (loop, records ++ more)

/-- Puts an event into the queues of all live subscriptions that can take it. -/
def offerAll (loop : Loop) (event : Event) : List (Id × Mailbox) :=
  loop.mailboxes.map fun entry =>
    if entry.1 ∈ loop.live then (entry.1, (entry.2.offer loop.capacity event).2) else entry

/-- Offers an event to every live subscription and removes those that could not take it. -/
def deliver (loop : Loop) (event : Event) : Loop × List Log.Record :=
  let outcomes := loop.live.map fun id => (id, loop.outcome event id)
  let delivered := (outcomes.filter fun entry => entry.2 = .accepted).length
  dropAll event outcomes
    { loop with
      mailboxes := loop.offerAll event
      counters := loop.counters.deliver delivered }

def publish (loop : Loop) (event : Event) : Loop × List Log.Record :=
  { loop with counters := loop.counters.publish }.deliver event

def stop (loop : Loop) : Loop × List Log.Record :=
  let closed := loop.live.foldl
    (fun loop id => { loop.remove id .unregistered with counters := loop.counters.unregister }) loop
  ({ closed with hasEnded := true },
    [record .debug ("Hub stopped (" ++ toString loop.live.length ++ " subscribers closed)")])

/-- Handles a command; what comes after the end is discarded. -/
def handle (loop : Loop) (command : Command) : Loop × List Log.Record :=
  if loop.hasEnded then (loop, [])
  else match command with
    | .register id => loop.register id
    | .unregister id => loop.unregister id
    | .publish event => loop.publish event
    | .stop => loop.stop

/-- The subscription is created, for the loop to register. -/
def create (loop : Loop) (id : Id) : Loop :=
  { loop with mailboxes := loop.mailboxes ++ [(id, .new)] }

end Loop
end Dashboard.Hub
