import Dashboard.Config.Basic
import Dashboard.Hub.Loop

namespace Dashboard.Hub

/-- Why the hub does not do what it is asked. -/
inductive HubError where
  | stopped
  | invalidPayload (error : Event.PayloadError)
deriving Repr

def HubError.text : HubError → String
  | stopped => "hub is stopped"
  | invalidPayload error => "invalid event payload: " ++ error.text

/-- Data that is to become the payload of an event. A map whose keys are not texts has no JSON
form. -/
inductive Data where
  | value (value : Json.Value)
  | mapWithoutTextKeys

/-- The loop, the number of the next subscription, and whether commands are taken. -/
structure Service where
  loop : Loop
  nextId : Id
  isRunning : Bool

namespace Service

def start (config : Config.Hub) : Service × List Log.Record :=
  (⟨.start config.subscriberBuffer, 1, true⟩,
    [Loop.record .debug ("Hub started (inbox=" ++ toString config.inboxCapacity ++
      ", subscriber_buffer=" ++ toString config.subscriberBuffer ++ ")")])

/-- Has a command handled, unless the hub is stopped. -/
def submit (service : Service) (command : Command) :
    Except HubError Unit × Service × List Log.Record :=
  if service.isRunning then
    let (loop, records) := service.loop.handle command
    (.ok (), { service with loop := loop }, records)
  else (.error .stopped, service, [])

/-- A new live subscription. A number is used up even if there is none. -/
def subscribe (service : Service) : Except HubError Id × Service × List Log.Record :=
  let id := service.nextId
  let service := { service with nextId := id + 1 }
  if service.isRunning then
    let (loop, records) := (service.loop.create id).handle (.register id)
    (.ok id, { service with loop := loop }, records)
  else (.error .stopped, service, [])

def unregister (service : Service) (id : Id) : Except HubError Unit × Service × List Log.Record :=
  service.submit (.unregister id)

def publish (service : Service) (event : Event) :
    Except HubError Unit × Service × List Log.Record :=
  service.submit (.publish event)

def broadcast (service : Service) (scope : Option String) (payload : Event.Payload)
    (time : WallTime) : Except HubError Unit × Service × List Log.Record :=
  service.publish ⟨payload, scope, time.epochSeconds⟩

/-- Publishes one event after another, until one is refused. -/
def broadcastAll (service : Service) (scope : Option String) (time : WallTime) :
    List Event.Payload → Except HubError Unit × Service × List Log.Record
  | [] => (.ok (), service, [])
  | payload :: rest =>
    match service.broadcast scope payload time with
    | (.error error, service, records) => (.error error, service, records)
    | (.ok _, service, records) =>
      let (result, service, more) := broadcastAll service scope time rest
      (result, service, records ++ more)

/-- Publishes an event made of untyped data, which is checked first. -/
def broadcastData (service : Service) (code : String) (scope : Option String) (data : Data)
    (time : WallTime) : Except HubError Unit × Service × List Log.Record :=
  match data with
  | .mapWithoutTextKeys => (.error (.invalidPayload .keysNotText), service, [])
  | .value value =>
    match Event.Payload.ofCode code value with
    | .error error => (.error (.invalidPayload error), service, [])
    | .ok payload => service.broadcast scope payload time

/-- Stops the loop and takes no more commands; a stopped hub stays as it is. -/
def stop (service : Service) : Service × List Log.Record :=
  if service.isRunning then
    let (loop, records) := service.loop.handle .stop
    ({ service with loop := loop, isRunning := false }, records)
  else (service, [])

/-- The numbers of the live subscriptions, in ascending order. -/
def ids (service : Service) : List Id := service.loop.live.mergeSort fun first second => first ≤ second

def count (service : Service) : Nat := service.loop.live.length

inductive Received where
  | event (event : Event)
  /-- The queue is empty, and nothing more will come. -/
  | closed
  | pending

def receive (service : Service) (id : Id) : Received × Service :=
  match service.loop.mailbox? id with
  | none => (.closed, service)
  | some mailbox =>
    match mailbox.take with
    | (some event, mailbox) =>
      (.event event, { service with loop := service.loop.alter id fun _ => mailbox })
    | (none, _) => (if id ∈ service.loop.live then .pending else .closed, service)

def queued (service : Service) (id : Id) : List Event :=
  ((service.loop.mailbox? id).map Mailbox.queue).getD []

def state (service : Service) (id : Id) : State :=
  ((service.loop.mailbox? id).map Mailbox.state).getD .unregistered

def drain (service : Service) (id : Id) : List Event × Service :=
  (service.queued id,
    { service with loop := service.loop.alter id fun mailbox => { mailbox with queue := [] } })

def detach (service : Service) (id : Id) : Service :=
  { service with loop := service.loop.alter id Mailbox.detach }

def diagnostic (service : Service) : String :=
  "Hub \x7b running: " ++ (if service.isRunning then "true" else "false") ++ ", subscribers: " ++
    toString service.count ++ " \x7d"

end Service
end Dashboard.Hub
