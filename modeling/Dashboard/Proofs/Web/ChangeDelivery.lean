import Dashboard.Config.Reading
import Dashboard.Proofs.Hub.Counting
import Dashboard.Proofs.Hub.Standing
import Dashboard.Proofs.Web.ChangeReports
import Mathlib.Data.List.Forall2
import Mathlib.Data.List.ReduceOption

namespace Dashboard

namespace Hub

/-- What clients do at a hub, apart from asking for changes. Nobody stops it. -/
inductive ClientAction where
  | create (id : Id)
  | register (id : Id)
  | unregister (id : Id)
  | receive (id : Id)
  | detach (id : Id)

namespace ClientAction

def action : ClientAction → Action
  | create id => .create id
  | register id => .handle (.register id)
  | unregister id => .handle (.unregister id)
  | receive id => .receive id
  | detach id => .detach id

theorem action_spec (client : ClientAction) :
    client.action.published? = none ∧ client.action ≠ .handle .stop := by
  cases client <;> exact ⟨rfl, nofun⟩

end ClientAction
end Hub

namespace Web

open Http (Request)

/-- What happens to a program while its hub is running. -/
inductive Move where
  | request (asked : Request) (clock : Clock)
  | sweep (wheel : Background.Wheel) (now : Instant)
  | spawnSweepers (limit : Config.RateLimit) (now : Instant)
  | stopSweepers
  /-- A client of the hub does something, and may use up numbers of subscriptions. -/
  | client (served : Hub.ClientAction) (nextId : Hub.Id)

namespace Move

def happening (app : App) : Move → Happening
  | request asked clock => .request asked clock
  | sweep wheel now => .sweep wheel now
  | spawnSweepers limit now => .spawnSweepers limit now
  | stopSweepers => .stopSweepers
  | client served nextId =>
    .live { app.hub with loop := app.hub.loop.step served.action, nextId := nextId }

def request? : Move → Option Request
  | request asked _ => some asked
  | _ => none

end Move

namespace History

def move (history : History) (move : Move) : History := history.next (move.happening history.app)

def moves (history : History) (moves : List Move) : History := moves.foldl move history

/-- The events that come into the queue of a subscription in the course of a run. -/
def delivered (history : History) (id : Hub.Id) : List Move → List Event
  | [] => []
  | move :: rest =>
    Hub.Loop.arrived history.app.hub.loop (history.move move).app.hub.loop id ++
      (history.move move).delivered id rest

end History

/-- What a request can announce: the change that it is answered for, or nothing. A request that is left
without an answer, because the metrics have no room for its report, has announced its change before. -/
inductive Exchange.Announces (windowSize : Nat) (exchange : Exchange) : Option Event → Prop where
  | answered : Announces windowSize exchange (exchange.change?.map Change.event)
  | cutShort {made : Change} (noRoom : Metrics.Collector.largestWindow < windowSize)
      (unanswered : exchange.status = none) (intended : exchange.intended? = some made) :
      Announces windowSize exchange (some made.event)

structure App.IsServing (config : Config) (app : App) : Prop where
  isRunning : app.hub.isRunning = true
  windowSize : app.metrics.windowSize = max config.metrics.windowSize 1

theorem App.IsServing.start (config : Config) (clock : Clock) :
    (App.start config clock).1.IsServing config :=
  ⟨rfl, rfl⟩

/-- How a program gets from one point of its history to another: the actions at the hub, what they
deliver, and the requests, whose announcements are what the actions publish. -/
structure Enacted (config : Config) (before after : History) (moves : List Move)
    (actions : List Hub.Action) : Prop where
  serving : after.app.IsServing config
  loop : after.app.hub.loop = before.app.hub.loop.run actions
  going : ∀ action ∈ actions, action ≠ .handle .stop
  delivered : ∀ id, before.delivered id moves = before.app.hub.loop.arrivals id actions
  exchanges : ∃ asked announced, after.exchanges = before.exchanges ++ asked ∧
    asked.map Exchange.request = moves.filterMap Move.request? ∧
    List.Forall₂ (Exchange.Announces config.metrics.windowSize) asked announced ∧
    announced.reduceOption = actions.filterMap Hub.Action.published?

namespace Enacted

variable {config : Config} {before after last : History} {moves rest : List Move} {move : Move}
  {actions more : List Hub.Action}

/-- A move is at most one action at the hub. -/
theorem single (turn : Option Hub.Action) (serving : (before.move move).app.IsServing config)
    (loop : (before.move move).app.hub.loop = before.app.hub.loop.run turn.toList)
    (going : turn ≠ some (.handle .stop)) {asked : List Exchange} {announced : List (Option Event)}
    (exchanges : (before.move move).exchanges = before.exchanges ++ asked)
    (requests : asked.map Exchange.request = move.request?.toList)
    (announces : List.Forall₂ (Exchange.Announces config.metrics.windowSize) asked announced)
    (published : announced.reduceOption = (turn.bind Hub.Action.published?).toList) :
    Enacted config before (before.move move) [move] turn.toList where
  serving := serving
  loop := loop
  going action present same := going (same ▸ Option.mem_toList.mp present)
  delivered id := by
    rw [History.delivered, History.delivered, List.append_nil, loop]
    cases turn with
    | none => exact Hub.Loop.arrived_self _ id
    | some action => exact (List.append_nil _).symm
  exchanges := by
    refine ⟨asked, announced, exchanges, requests.trans ?_, announces, published.trans ?_⟩
    · cases asks : move.request? <;> simp [asks]
    · cases turn with
      | none => rfl
      | some action => cases publishes : action.published? <;> simp [publishes]

/-- A request is at most the announcement of the change that it makes. -/
theorem request (serving : before.app.IsServing config) (asked : Request) (clock : Clock) :
    ∃ actions, Enacted config before (before.move (.request asked clock)) [.request asked clock]
      actions := by
  have told := before.app.handle_told asked clock
  have windowSize := told.windowSize.trans serving.windowSize
  have quiet (hub : (before.app.handle asked clock).2.1.hub = before.app.hub) :
      (before.move (.request asked clock)).app.IsServing config :=
    ⟨(congrArg _ hub).trans serving.isRunning, windowSize⟩
  have loud {event : Event}
      (hub : (before.app.handle asked clock).2.1.hub = (before.app.hub.publish event).2.1) :
      (before.move (.request asked clock)).app.IsServing config ∧
        (before.move (.request asked clock)).app.hub.loop =
          before.app.hub.loop.step (.handle (.publish event)) := by
    rw [Hub.Service.publish_loop serving.isRunning] at hub
    exact ⟨⟨(congrArg _ hub).trans serving.isRunning, windowSize⟩, congrArg _ hub⟩
  let exchange : Exchange := ⟨asked, clock, (before.app.handle asked clock).1.map Response.status⟩
  have announces : Exchange.Announces config.metrics.windowSize exchange
      (exchange.change?.map Change.event) := .answered
  cases changed : exchange.change? with
  | some made =>
    obtain ⟨serves, loop⟩ := loud (told.announced made changed)
    rw [changed] at announces
    exact ⟨_, single (some (.handle (.publish made.event))) serves loop nofun rfl rfl
      (.cons announces .nil) rfl⟩
  | none =>
    rcases told.silent changed with hub | ⟨unanswered, noRoom, made, intended, hub⟩
    · rw [changed] at announces
      exact ⟨_, single none (quiet hub) (congrArg _ hub) nofun rfl rfl (.cons announces .nil) rfl⟩
    · obtain ⟨serves, loop⟩ := loud hub
      have noRoom : Metrics.Collector.largestWindow < config.metrics.windowSize := by
        rw [serving.windowSize] at noRoom
        simp only [Metrics.Collector.largestWindow] at noRoom ⊢
        omega
      exact ⟨_, single (some (.handle (.publish made.event))) serves loop nofun rfl rfl
        (.cons (.cutShort noRoom unanswered intended) .nil) rfl⟩

theorem step (serving : before.app.IsServing config) (move : Move) :
    ∃ actions, Enacted config before (before.move move) [move] actions := by
  have exchanges := (List.append_nil before.exchanges).symm
  cases move with
  | request asked clock => exact request serving asked clock
  | sweep | spawnSweepers | stopSweepers =>
    exact ⟨_, single none ⟨serving.isRunning, serving.windowSize⟩ rfl nofun exchanges rfl .nil rfl⟩
  | client served nextId =>
    obtain ⟨silent, goesOn⟩ := served.action_spec
    exact ⟨_, single (some served.action) ⟨serving.isRunning, serving.windowSize⟩ rfl
      (by simpa using goesOn) exchanges rfl .nil (by simp [silent])⟩

theorem cons (first : Enacted config before (before.move move) [move] actions)
    (later : Enacted config (before.move move) last rest more) :
    Enacted config before last (move :: rest) (actions ++ more) where
  serving := later.serving
  loop := by rw [later.loop, first.loop, Hub.Loop.run_append]
  going action present := (List.mem_append.mp present).elim (first.going action) (later.going action)
  delivered id := by
    have firstDelivered := first.delivered id
    rw [History.delivered, History.delivered, List.append_nil] at firstDelivered
    rw [History.delivered, firstDelivered, later.delivered, first.loop, Hub.Loop.arrivals_append]
  exchanges := by
    obtain ⟨asked, announced, exchanges, requests, announces, published⟩ := first.exchanges
    obtain ⟨moreAsked, moreAnnounced, moreExchanges, moreRequests, moreAnnounces, morePublished⟩ :=
      later.exchanges
    refine ⟨asked ++ moreAsked, announced ++ moreAnnounced, ?_, ?_, ?_, ?_⟩
    · rw [moreExchanges, exchanges, List.append_assoc]
    · rw [List.map_append, requests, moreRequests, ← List.filterMap_append]
      rfl
    · exact List.rel_append announces moreAnnounces
    · rw [List.reduceOption_append, published, morePublished, List.filterMap_append]

theorem run (serving : before.app.IsServing config) (moves : List Move) :
    ∃ actions, Enacted config before (before.moves moves) moves actions := by
  induction moves generalizing before with
  | nil =>
    exact ⟨[], serving, rfl, nofun, fun _ => rfl, [], [], (List.append_nil _).symm, rfl, .nil, rfl⟩
  | cons next rest inductionHypothesis =>
    obtain ⟨actions, first⟩ := step serving next
    obtain ⟨more, later⟩ := inductionHypothesis first.serving
    exact ⟨actions ++ more, first.cons later⟩

end Enacted

end Web
end Dashboard
