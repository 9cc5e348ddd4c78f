import Dashboard.Event.Basic

namespace Dashboard.Hub

/-- The life of a subscription. -/
inductive State where
  /-- Created, but not yet known to the hub. -/
  | registered
  | active
  /-- Removed because its queue was full. -/
  | evicted
  /-- Removed on request, because its reader went away or because the hub stopped. -/
  | unregistered
deriving DecidableEq, Repr

namespace State

def isTerminal : State → Bool
  | evicted => true
  | unregistered => true
  | _ => false

def name : State → String
  | registered => "registered"
  | active => "active"
  | evicted => "evicted"
  | unregistered => "unregistered"

end State

/-- Subscriptions are numbered from one, without a bound: 64 bits hold the numbers of any run. -/
abbrev Id := Nat

/-- The queue of a subscription, oldest event first, and whether somebody still holds its reading
end. -/
structure Mailbox where
  state : State
  queue : List Event
  isAttached : Bool
deriving Repr

namespace Mailbox

def new : Mailbox := ⟨.registered, [], true⟩

inductive Outcome where
  | accepted
  | full
  | readerGone
deriving DecidableEq, Repr

/-- Offers an event to a queue of bounded length. -/
def offer (capacity : Nat) (event : Event) (mailbox : Mailbox) : Outcome × Mailbox :=
  if !mailbox.isAttached then (.readerGone, mailbox)
  else if capacity ≤ mailbox.queue.length then (.full, mailbox)
  else (.accepted, { mailbox with queue := mailbox.queue ++ [event] })

def take (mailbox : Mailbox) : Option Event × Mailbox :=
  match mailbox.queue with
  | [] => (none, mailbox)
  | event :: rest => (some event, { mailbox with queue := rest })

/-- The reader goes away, and what is queued with it. -/
def detach (mailbox : Mailbox) : Mailbox := { mailbox with queue := [], isAttached := false }

def setState (state : State) (mailbox : Mailbox) : Mailbox := { mailbox with state := state }

end Mailbox
end Dashboard.Hub
