import Dashboard.Proofs.Hub.Standing
import Dashboard.Proofs.Live.Visit
import Mathlib.Data.List.Forall2

namespace Dashboard.Live

open WebSocket (Frame)
open Background (Wheel)

/-- A text of the client and its answer: a ping is answered under its own name, and anything else is
refused for the fault in it. -/
inductive Answers (content : String) : Reply → Prop where
  | pong {name : Option String}
      (asked : ClientMessage.parse (Json.Symbol.ofText content) = .ok (.ping name)) :
      Answers content (.pong name)
  | refusal {fault : Json.Fault}
      (misread : ClientMessage.parse (Json.Symbol.ofText content) = .error fault) :
      Answers content (.refusal (Session.refusalLead ++ fault.text (Json.Symbol.ofText content)))

theorem Answers.reply (content : String) :
    Answers content (ClientMessage.reply Session.refusalLead content) := by
  rw [ClientMessage.reply]
  split
  · rename_i name asked
    exact .pong asked
  · rename_i fault misread
    exact .refusal misread

/-- Whether a close frame is the last thing that a serving end has sent or will send. -/
def Server.isClosing : Server → Bool
  | .waiting _ => false
  | .sending _ .close => true
  | .sending _ _ => false
  | .gone => true

namespace Connection

variable {connection after : Connection} {hub hubAfter : Hub.Service} {session : Session}
  {outgoing : Outgoing} {now : Instant}

/-- A session begins to send an answer exactly when it takes a text, and to close exactly when it has
found its queue closed. -/
theorem Cause.replies (waiting : connection.server = .waiting session)
    (cause : Cause connection hub session outgoing) :
    List.Forall₂ Answers (connection.taken hub).toList outgoing.reply?.toList ∧
      (connection.findsClosed hub = true ↔ outgoing = .close) := by
  cases cause with
  | event received => simp [taken, findsClosed, waiting, received, Outgoing.reply?]
  | closed received => simp [taken, findsClosed, waiting, received, Outgoing.reply?]
  | text pending taken =>
    simp only [taken, findsClosed, waiting, pending, Outgoing.reply?]
    exact ⟨.cons (Answers.reply _) .nil, by simp⟩
  | silence pending nothing =>
    simp [nothing, findsClosed, waiting, pending, Outgoing.reply?]

/-- A session begins to send an event when its queue gives it one, and only then. -/
theorem Cause.event_or (cause : Cause connection hub session outgoing) :
    (∃ event, outgoing = .event event ∧ (hub.receive session.id).1 = .event event) ∨
      outgoing.event? = none ∧ ∀ event, (hub.receive session.id).1 ≠ .event event := by
  cases cause with
  | event received => exact Or.inl ⟨_, rfl, received⟩
  | closed received => exact Or.inr ⟨rfl, by simp [received]⟩
  | text pending taken => exact Or.inr ⟨rfl, by simp [pending]⟩
  | silence pending nothing => exact Or.inr ⟨rfl, by simp [pending]⟩

theorem closed_of_findsClosed (finds : connection.findsClosed hub = true) :
    ∃ session, connection.server = .waiting session ∧ (hub.receive session.id).1 = .closed := by
  unfold findsClosed at finds
  split at finds
  · rename_i session waiting
    refine ⟨session, waiting, ?_⟩
    split at finds
    · assumption
    · cases finds
  · cases finds

/-- What a step sends, takes and finds: all there is to it when a waiting session begins to send, and
nothing otherwise. -/
theorem Progress.spoken (progress : connection.Progress hub now after hubAfter) :
    (∃ session next outgoing, connection.server = .waiting session ∧
        after.server = .sending next outgoing ∧ Cause connection hub session outgoing ∧
        connection.begun after = [outgoing]) ∨
      connection.begun after = [] ∧ connection.taken hub = none ∧
        connection.findsClosed hub = false ∧
        (connection.server.isClosing = true → after.server.isClosing = true) := by
  cases progress with
  | @begin session next outgoing _ waiting same cause sending unread keeps =>
    exact Or.inl ⟨session, next, outgoing, waiting, sending, cause, by
      simp [begun, waiting, sending]⟩
  | stay next pongs waiting same pending nothing waits unread pong keeps =>
    exact Or.inr ⟨by simp [begun, waits], nothing, by simp [findsClosed, waiting, pending],
      by simp [waiting, Server.isClosing]⟩
  | leave waiting pending nothing gone unread keeps =>
    exact Or.inr ⟨by simp [begun, gone], nothing, by simp [findsClosed, waiting, pending],
      by simp [gone, Server.isClosing]⟩
  | @sent session next outgoing sending same flushed goesOn =>
    refine Or.inr ⟨by simp [begun], by simp [taken, sending], by simp [findsClosed, sending], ?_⟩
    intro closing
    rw [sending] at closing
    cases outgoing with
    | close => exact absurd rfl goesOn
    | event | reply | ping => cases closing
  | finish sending ends =>
    exact Or.inr ⟨by simp [begun, close], by simp [taken, sending], by simp [findsClosed, sending],
      fun _ => rfl⟩
  | overrun waiting pending nothing late =>
    exact Or.inr ⟨by simp [begun, close], nothing, by simp [findsClosed, waiting, pending],
      fun _ => rfl⟩

end Connection

namespace Visit

/-- The answers that the session has begun to send, and how it closes. -/
structure Dialogue (visit : Visit) : Prop where
  answered : List.Forall₂ Answers visit.texts (visit.sent.filterMap Outgoing.reply?)
  closing : visit.foundClosed = true → visit.connection.server.isClosing = true
  notClosed : visit.foundClosed = false → Outgoing.close ∉ visit.sent
  closed : visit.foundClosed = true → ∃ front, visit.sent = front ++ [.close] ∧ Outgoing.close ∉ front

namespace Dialogue

variable {visit : Visit} {connection : Connection} {hub : Hub.Service} {now : Instant}

theorem not_foundClosed (dialogue : Dialogue visit) {session : Session}
    (waiting : visit.connection.server = .waiting session) : visit.foundClosed = false := by
  by_contra found
  have closing := dialogue.closing (by simpa using found)
  rw [waiting] at closing
  cases closing

theorem advance (dialogue : Dialogue visit)
    (progress : visit.connection.Progress visit.hub now connection hub) :
    Dialogue (visit.advance connection hub) := by
  rcases progress.spoken with
    ⟨session, next, outgoing, waiting, sending, cause, begun⟩ | ⟨begun, taken, finds, closing⟩
  · have fresh := dialogue.not_foundClosed waiting
    obtain ⟨answer, finds⟩ := cause.replies waiting
    have found : (visit.advance connection hub).foundClosed = true ↔ outgoing = .close := by
      rw [Visit.advance, fresh, Bool.false_or]
      exact finds
    have sent : (visit.advance connection hub).sent = visit.sent ++ [outgoing] :=
      congrArg (visit.sent ++ ·) begun
    refine ⟨?answered, fun closed => ?closing, fun other => ?notClosed, fun closed => ?closed⟩
    case answered =>
      rw [sent, List.filterMap_append]
      refine List.rel_append dialogue.answered ?_
      cases said : outgoing.reply? <;> simpa [said] using answer
    case closing =>
      obtain rfl := found.mp closed
      change connection.server.isClosing = true
      rw [sending]
      rfl
    case notClosed =>
      have goesOn : Outgoing.close ≠ outgoing := by
        rintro rfl
        rw [found.mpr rfl] at other
        cases other
      rw [sent]
      simp [dialogue.notClosed fresh, goesOn]
    case closed =>
      obtain rfl := found.mp closed
      exact ⟨visit.sent, sent, dialogue.notClosed fresh⟩
  · have same : (visit.advance connection hub).foundClosed = visit.foundClosed := by
      rw [Visit.advance, finds, Bool.or_false]
    have sent : (visit.advance connection hub).sent = visit.sent := by
      rw [Visit.advance, begun, List.append_nil]
    have texts : (visit.advance connection hub).texts = visit.texts := by
      rw [Visit.advance, taken, Option.toList_none, List.append_nil]
    refine ⟨?_, ?_, ?_, ?_⟩
    · rw [sent, texts]
      exact dialogue.answered
    · rw [same]
      exact fun found => closing (dialogue.closing found)
    · rw [same, sent]
      exact dialogue.notClosed
    · rw [same, sent]
      exact dialogue.closed

/-- The session says nothing while it takes no step. -/
theorem act (dialogue : Dialogue visit) (turn : Turn) : Dialogue (visit.act turn) := by
  cases turn with
  | serve wheel now =>
    rcases visit.act_serve wheel now with same | ⟨connection, hub, progress, next⟩
    · rwa [same]
    · rw [next]
      exact dialogue.advance progress
  | hub action =>
    rw [Visit.act]
    split
    · exact dialogue
    · exact ⟨dialogue.answered, dialogue.closing, dialogue.notClosed, dialogue.closed⟩
  | send frame =>
    rcases receive_cases visit.connection frame with same | came
    · rw [Visit.act, same]
      exact dialogue
    · rw [Visit.act, came]
      exact ⟨dialogue.answered, dialogue.closing, dialogue.notClosed, dialogue.closed⟩
  | halt | read count | cut =>
    exact ⟨dialogue.answered, dialogue.closing, dialogue.notClosed, dialogue.closed⟩

end Dialogue

/-- The subscription of a connection: the session has sent the events that it has obtained from its
queue. -/
structure Fed (buffer : Nat) (visit : Visit) : Prop where
  own : ∀ session, visit.connection.server.session? = some session → session.id = visit.id
  standing : ∃ tenure, Hub.Standing buffer (visit.hub.loop.view visit.id)
    (visit.sent.filterMap Outgoing.event?) visit.delivered tenure
  attached : visit.connection.isGone = false →
    ∃ mailbox, visit.hub.loop.mailbox? visit.id = some mailbox ∧ mailbox.isAttached = true
  inOrder : visit.sent.filterMap Outgoing.event? <+: visit.delivered
  out : visit.foundClosed = true → (visit.hub.loop.view visit.id).isLive = false
  all : visit.foundClosed = true → visit.sent.filterMap Outgoing.event? = visit.delivered

namespace Fed

variable {buffer : Nat} {visit after : Visit}

/-- A step that leaves the subscription alone. The session finds its queue closed only when nothing is
in it and nothing more can come. -/
theorem stay (fed : Fed buffer visit) (serving : visit.connection.isGone = false)
    (sameId : after.id = visit.id)
    (own : ∀ session, after.connection.server.session? = some session → session.id = visit.id)
    (hub : after.hub = visit.hub) (delivered : after.delivered = visit.delivered)
    (sent : after.sent.filterMap Outgoing.event? = visit.sent.filterMap Outgoing.event?)
    (closed : after.foundClosed = true → visit.foundClosed = true ∨
      (visit.hub.receive visit.id).1 = .closed) :
    Fed buffer after := by
  obtain ⟨mailbox, found, attached⟩ := fed.attached serving
  obtain ⟨tenure, standing⟩ := fed.standing
  have queued : visit.sent.filterMap Outgoing.event? ++ mailbox.queue = visit.delivered :=
    (standing.faithful.append_queue found attached).trans standing.delivered
  refine ⟨?own, ?standing, ?attached, ?inOrder, fun finds => ?out, fun finds => ?all⟩
  case own => rwa [sameId]
  case standing => rw [sameId, hub, sent, delivered]; exact ⟨tenure, standing⟩
  case attached => rw [sameId, hub]; exact fun _ => ⟨mailbox, found, attached⟩
  case inOrder => rw [sent, delivered]; exact fed.inOrder
  case out =>
    rw [sameId, hub]
    rcases closed finds with before | isClosed
    · exact fed.out before
    · have gone := (Hub.Service.receive_closed isClosed).2 (by simp [found])
      exact decide_eq_false gone
  case all =>
    rw [sent, delivered]
    rcases closed finds with before | isClosed
    · exact fed.all before
    · have nothingQueued := (Hub.Service.receive_closed isClosed).1 mailbox found
      rwa [nothingQueued, List.append_nil] at queued

/-- An event is taken from the queue and sent. -/
theorem take (fed : Fed buffer visit) (serving : visit.connection.isGone = false) {event : Event}
    (received : (visit.hub.receive visit.id).1 = .event event) (sameId : after.id = visit.id)
    (own : ∀ session, after.connection.server.session? = some session → session.id = visit.id)
    (hub : after.hub = (visit.hub.receive visit.id).2) (delivered : after.delivered = visit.delivered)
    (sent : after.sent.filterMap Outgoing.event? =
      visit.sent.filterMap Outgoing.event? ++ [event])
    (fresh : after.foundClosed = false) :
    Fed buffer after := by
  obtain ⟨mailbox, found, attached⟩ := fed.attached serving
  obtain ⟨tenure, standing⟩ := fed.standing
  obtain ⟨view, yields⟩ := visit.hub.receive_view visit.id
  rw [received] at yields
  have next := standing.step visit.id (.receive visit.id)
  have nothing : (visit.hub.loop.view visit.id).arrival (.receive visit.id) = [] := rfl
  rw [← view, yields, ← hub, ← sent, nothing, List.append_nil, ← delivered] at next
  have taken : after.hub.loop.mailbox? visit.id = some mailbox.take.2 := by
    have changed := congrArg Hub.View.mailbox view
    rw [← hub] at changed
    simpa [Hub.View.step, Hub.View.change, Hub.Loop.view, found] using changed
  have stillAttached := mailbox.take_spec.2.2.trans attached
  refine ⟨?own, ?standing, ?attached, ?inOrder, ?out, ?all⟩
  case own => rwa [sameId]
  case standing => rw [sameId]; exact ⟨_, next⟩
  case attached => rw [sameId]; exact fun _ => ⟨_, taken, stillAttached⟩
  case inOrder =>
    exact ⟨_, (next.faithful.append_queue taken stillAttached).trans next.delivered⟩
  case out => simp [fresh]
  case all => simp [fresh]

theorem leave (fed : Fed buffer visit) (sameId : after.id = visit.id)
    (gone : after.connection.server = .gone)
    (standing : ∃ tenure, Hub.Standing buffer (after.hub.loop.view visit.id)
      (visit.sent.filterMap Outgoing.event?) visit.delivered tenure)
    (delivered : after.delivered = visit.delivered) (sent : after.sent = visit.sent)
    (closed : after.foundClosed = visit.foundClosed)
    (out : (visit.hub.loop.view visit.id).isLive = false →
      (after.hub.loop.view visit.id).isLive = false) :
    Fed buffer after := by
  refine ⟨?own, ?standing, ?attached, ?inOrder, fun found => ?out, ?all⟩
  case own => simp [gone, Server.session?]
  case standing => rw [sameId, sent, delivered]; exact standing
  case attached => simp [Connection.isGone, gone]
  case inOrder => rw [sent, delivered]; exact fed.inOrder
  case out => rw [sameId]; exact out (fed.out (closed.symm.trans found))
  case all => rw [closed, sent, delivered]; exact fed.all

/-- Something happens to the hub that is not up to the session. -/
theorem hub (fed : Fed buffer visit) {action : Hub.Action}
    (others : isReading visit.id action = false) (sameId : after.id = visit.id)
    (connection : after.connection = visit.connection)
    (hub : after.hub.loop = visit.hub.loop.step action) (sent : after.sent = visit.sent)
    (closed : after.foundClosed = visit.foundClosed)
    (delivered : after.delivered =
      visit.delivered ++ (visit.hub.loop.view visit.id).arrival action) :
    Fed buffer after := by
  obtain ⟨tenure, standing⟩ := fed.standing
  have next := standing.step visit.id action
  have nothing : (visit.hub.loop.view visit.id).yield visit.id action = [] := by
    cases action with
    | receive other =>
      have different : other ≠ visit.id := by simpa [isReading] using others
      simp [Hub.View.yield, different]
    | create other | handle command | detach other => rfl
  rw [nothing, List.append_nil, ← Hub.Loop.view_step, ← hub, ← delivered, ← sent] at next
  refine ⟨?own, ?standing, ?attached, ?inOrder, fun found => ?out, fun found => ?all⟩
  case own => rw [sameId, connection]; exact fed.own
  case standing => rw [sameId]; exact ⟨_, next⟩
  case attached =>
    rw [sameId, connection]
    intro serving
    obtain ⟨mailbox, found, attached⟩ := fed.attached serving
    have stays : action ≠ .detach visit.id := by
      rintro rfl
      simp [isReading] at others
    have view : (visit.hub.loop.view visit.id).mailbox = some mailbox := found
    obtain ⟨after, present, same⟩ := Hub.View.isAttached_step view stays
    rw [← Hub.Loop.view_step, ← hub] at present
    exact ⟨after, present, same.trans attached⟩
  case inOrder => rw [sent, delivered]; exact fed.inOrder.trans (List.prefix_append _ _)
  case out =>
    rw [sameId, hub, Hub.Loop.view_step]
    exact standing.stays_out (fed.out (closed.symm.trans found)) visit.id action
  case all =>
    have before := closed.symm.trans found
    rw [sent, delivered, standing.arrival_eq_nil (fed.out before) visit.id action, List.append_nil]
    exact fed.all before

theorem advance (fed : Fed buffer visit) (dialogue : Dialogue visit) {connection : Connection}
    {hub : Hub.Service} {now : Instant}
    (progress : visit.connection.Progress visit.hub now connection hub) :
    Fed buffer { visit.advance connection hub with
      delivered := visit.delivered ++ Hub.Loop.arrived visit.hub.loop hub.loop visit.id } := by
  have finds : (visit.advance connection hub).foundClosed = true →
      visit.foundClosed = true ∨ (visit.hub.receive visit.id).1 = .closed := by
    intro closed
    rcases Bool.or_eq_true_iff.mp closed with before | finds
    · exact Or.inl before
    · obtain ⟨session, waiting, isClosed⟩ := Connection.closed_of_findsClosed finds
      rw [fed.own session (by simp [Server.session?, waiting])] at isClosed
      exact Or.inr isClosed
  have same : visit.delivered ++ Hub.Loop.arrived visit.hub.loop visit.hub.loop visit.id =
      visit.delivered := by
    rw [Hub.Loop.arrived_self, List.append_nil]
  cases progress with
  | @begin session next outgoing _ waiting sameId cause sending unread keeps =>
    have serving : visit.connection.isGone = false := by simp [Connection.isGone, waiting]
    have owned : session.id = visit.id := fed.own session (by simp [Server.session?, waiting])
    have own : ∀ session, connection.server.session? = some session → session.id = visit.id := by
      simp [sending, Server.session?, sameId, owned]
    have begun : visit.connection.begun connection = [outgoing] := by
      simp [Connection.begun, waiting, sending]
    -- what was begun is an event that the hub had ready, or no event at all
    have either := cause.event_or
    rw [owned] at finds either ⊢
    rcases either with ⟨event, rfl, received⟩ | ⟨silent, unread⟩
    · refine fed.take serving received rfl own rfl ?_ ?_ ?_
      · rw [Hub.Service.arrived_receive, List.append_nil]
      · simp [Visit.advance, begun, Outgoing.event?]
      · simp [Visit.advance, dialogue.not_foundClosed waiting, Connection.findsClosed, waiting, owned,
          received]
    · rw [Hub.Service.receive_eq_self unread, same]
      exact fed.stay serving rfl own rfl rfl (by simp [Visit.advance, begun, silent]) finds
  | @stay session _ next pongs waiting sameId pending nothing waits unread pong keeps =>
    have owned : session.id = visit.id := fed.own session (by simp [Server.session?, waiting])
    rw [same]
    refine fed.stay (by simp [Connection.isGone, waiting]) rfl ?_ rfl rfl ?_ finds
    · simp [Visit.advance, waits, Server.session?, sameId, owned]
    · simp [Visit.advance, Connection.begun, waits]
  | @leave session _ waiting pending nothing gone unread keeps =>
    have owned : session.id = visit.id := fed.own session (by simp [Server.session?, waiting])
    rw [owned, Hub.Service.arrived_detach, List.append_nil]
    obtain ⟨tenure, standing⟩ := fed.standing
    obtain ⟨tenure, standing, out⟩ := standing.giveUp
    refine fed.leave rfl gone ⟨tenure, standing⟩ rfl ?_ ?_ fun before => out (Or.inl before)
    · simp [Visit.advance, Connection.begun, gone]
    · simp [Visit.advance, Connection.findsClosed, waiting, pending]
  | @sent session next outgoing sending sameId flushed goesOn =>
    have owned : session.id = visit.id := fed.own session (by simp [Server.session?, sending])
    rw [same]
    refine fed.stay (by simp [Connection.isGone, sending]) rfl ?_ rfl rfl ?_ finds
    · simp [Visit.advance, Server.session?, sameId, owned]
    · simp [Visit.advance, Connection.begun]
  | @finish session outgoing sending ends =>
    have owned : session.id = visit.id := fed.own session (by simp [Server.session?, sending])
    rw [owned, Hub.Service.arrived_detach, List.append_nil]
    obtain ⟨tenure, standing⟩ := fed.standing
    obtain ⟨tenure, standing, out⟩ := standing.giveUp
    refine fed.leave rfl rfl ⟨tenure, standing⟩ rfl ?_ ?_ fun before => out (Or.inl before)
    · simp [Visit.advance, Connection.begun, Connection.close]
    · simp [Visit.advance, Connection.findsClosed, sending]
  | @overrun session waiting pending nothing late =>
    have owned : session.id = visit.id := fed.own session (by simp [Server.session?, waiting])
    rw [owned, Hub.Service.arrived_detach, List.append_nil]
    obtain ⟨tenure, standing⟩ := fed.standing
    refine fed.leave rfl rfl ⟨tenure, standing.detach⟩ rfl ?_ ?_ fun before => before
    · simp [Visit.advance, Connection.begun, Connection.close]
    · simp [Visit.advance, Connection.findsClosed, waiting, pending]

/-- Something happens that concerns neither the session nor the loop of the hub. -/
theorem still (fed : Fed buffer visit) {connection : Connection} {hub : Hub.Service}
    (read : List Frame) (server : connection.server = visit.connection.server)
    (loop : hub.loop = visit.hub.loop) :
    Fed buffer { visit with
      connection := connection
      hub := hub
      read := read
      delivered := visit.delivered ++ Hub.Loop.arrived visit.hub.loop hub.loop visit.id } := by
  have isGone : connection.isGone = visit.connection.isGone := by
    rw [Connection.isGone, server, Connection.isGone]
  rw [loop, Hub.Loop.arrived_self, List.append_nil]
  constructor
  case own => simpa only [server] using fed.own
  case standing => simpa only [loop] using fed.standing
  case attached => simpa only [loop, isGone] using fed.attached
  case inOrder => exact fed.inOrder
  case out => simpa only [loop] using fed.out
  case all => exact fed.all

theorem step (fed : Fed buffer visit) (dialogue : Dialogue visit) (turn : Turn) :
    Fed buffer (visit.step turn) := by
  cases turn with
  | serve wheel now =>
    rw [Visit.step]
    rcases visit.act_serve wheel now with idle | ⟨connection, hub, progress, next⟩
    · rw [idle]
      exact fed.still visit.read rfl rfl
    · rw [next]
      exact fed.advance dialogue progress
  | hub action =>
    rw [Visit.step, Visit.act]
    split
    · exact fed.still visit.read rfl rfl
    · rename_i others
      exact fed.hub (by simpa using others) rfl rfl rfl rfl rfl
        (congrArg _ (visit.hub.loop.arrived_step action visit.id))
  | halt => exact fed.still visit.read rfl rfl
  | send frame =>
    rcases receive_cases visit.connection frame with same | came
    · rw [Visit.step, Visit.act, same]
      exact fed.still visit.read rfl rfl
    · rw [Visit.step, Visit.act, came]
      exact fed.still visit.read rfl rfl
  | read count => exact fed.still (visit.read ++ visit.connection.unread.take count) rfl rfl
  | cut => exact fed.still visit.read rfl rfl

end Fed

/-- A hub that takes commands has removed the subscription of a serving end that has gone away. -/
structure Released (visit : Visit) : Prop where
  period : visit.connection.ticker.period = Connection.tickPeriod
  out : visit.connection.isGone = true → visit.hub.isRunning = true →
    (visit.hub.loop.view visit.id).isLive = false

namespace Released

variable {buffer : Nat} {visit : Visit}

theorem advance (released : Released visit) (fed : Fed buffer visit) {connection : Connection}
    {hub : Hub.Service} {now : Instant}
    (progress : visit.connection.Progress visit.hub now connection hub)
    (inTime : (now.add? Connection.tickPeriod).isSome = true) :
    Released (visit.advance connection hub) := by
  cases progress with
  | begin waiting same cause sending unread keeps =>
    refine ⟨keeps.period.trans released.period, ?_⟩
    simp [Visit.advance, Connection.isGone, sending]
  | stay next pongs waiting same pending nothing waits unread pong keeps =>
    refine ⟨keeps.period.trans released.period, ?_⟩
    simp [Visit.advance, Connection.isGone, waits]
  | @leave session _ waiting pending nothing gone unread keeps =>
    rw [fed.own session (by simp [Server.session?, waiting])]
    refine ⟨keeps.period.trans released.period, fun _ running => ?_⟩
    obtain ⟨tenure, standing⟩ := fed.standing
    obtain ⟨_, _, out⟩ := standing.giveUp
    exact out (Or.inr ((visit.hub.isRunning_unregister visit.id).symm.trans running))
  | sent sending same flushed goesOn => exact ⟨released.period, fun gone => by cases gone⟩
  | @finish session outgoing sending ends =>
    rw [fed.own session (by simp [Server.session?, sending])]
    refine ⟨released.period, fun _ running => ?_⟩
    obtain ⟨tenure, standing⟩ := fed.standing
    obtain ⟨_, _, out⟩ := standing.giveUp
    exact out (Or.inr ((visit.hub.isRunning_unregister visit.id).symm.trans running))
  | overrun waiting pending nothing late =>
    rw [released.period] at late
    simp [late] at inTime

theorem act (released : Released visit) (fed : Fed buffer visit) {turn : Turn}
    (inTime : ∀ now ∈ readings [turn], (now.add? Connection.tickPeriod).isSome = true) :
    Released (visit.act turn) := by
  cases turn with
  | serve wheel now =>
    rcases visit.act_serve wheel now with idle | ⟨connection, hub, progress, next⟩
    · rwa [idle]
    · rw [next]
      exact released.advance fed progress (inTime now (by simp [readings]))
  | hub action =>
    rw [Visit.act]
    split
    · exact released
    · refine ⟨released.period, fun gone running => ?_⟩
      obtain ⟨tenure, standing⟩ := fed.standing
      have out := standing.stays_out (released.out gone running) visit.id action
      rwa [← Hub.Loop.view_step] at out
  | halt => exact ⟨released.period, fun _ running => by cases running⟩
  | send frame =>
    rcases receive_cases visit.connection frame with same | came
    · rw [Visit.act, same]
      exact released
    · rw [Visit.act, came]
      exact ⟨released.period, released.out⟩
  | read count | cut => exact ⟨released.period, released.out⟩

end Released

/-- What a connection has kept to so far. -/
structure Sound (buffer : Nat) (visit : Visit) : Prop where
  conveyed : ∃ lost, Conveyed visit lost
  dialogue : Dialogue visit
  fed : Fed buffer visit

namespace Sound

variable {buffer : Nat} {visit : Visit}

theorem step (sound : Sound buffer visit) (turn : Turn) : Sound buffer (visit.step turn) := by
  obtain ⟨lost, conveyed⟩ := sound.conveyed
  obtain ⟨lost, conveyed⟩ := conveyed.act turn
  have dialogue := sound.dialogue.act turn
  exact ⟨⟨lost, conveyed.account, conveyed.atMostOne, conveyed.onlyCut, conveyed.isSent⟩,
    ⟨dialogue.answered, dialogue.closing, dialogue.notClosed, dialogue.closed⟩,
    sound.fed.step sound.dialogue turn⟩

theorem run (sound : Sound buffer visit) (turns : List Turn) : Sound buffer (visit.run turns) := by
  induction turns generalizing visit with
  | nil => exact sound
  | cons turn rest inductionHypothesis => exact inductionHypothesis (sound.step turn)

end Sound

theorem Released.run {buffer : Nat} {visit : Visit} (released : Released visit)
    (sound : Sound buffer visit) {turns : List Turn}
    (inTime : ∀ now ∈ readings turns, (now.add? Connection.tickPeriod).isSome = true) :
    Released (visit.run turns) := by
  induction turns generalizing visit with
  | nil => exact released
  | cons turn rest inductionHypothesis =>
    have split : readings (turn :: rest) = readings [turn] ++ readings rest := by
      rw [readings, ← List.filterMap_append]
      rfl
    rw [split] at inTime
    have first := released.act sound.fed fun now earlier =>
      inTime now (List.mem_append_left _ earlier)
    have stepped : Released (visit.step turn) := ⟨first.period, first.out⟩
    exact inductionHypothesis stepped (sound.step turn) fun now later =>
      inTime now (List.mem_append_right _ later)

/-- A hub that has not ended opens a connection. -/
theorem Sound.start {buffer : Nat} {past : List Hub.Action} {hub : Hub.Service}
    (reached : hub.loop = (Hub.Loop.start buffer).run past) (isRunning : hub.isRunning = true)
    (running : hub.loop.hasEnded = false) (unmade : hub.loop.mailbox? hub.nextId = none)
    (settings : HealthSettings) (room : Nat) (now : Instant) :
    ∃ visit, open? hub settings room now = some visit ∧ Sound buffer visit ∧ Released visit := by
  obtain ⟨answer, loop⟩ := Hub.Service.subscribe_loop unmade isRunning
  obtain ⟨standing, mailbox, found, attached⟩ := Hub.Standing.start reached running unmade
  rw [← loop] at standing found
  rcases subscribed : hub.subscribe with ⟨result, after, records⟩
  rw [subscribed] at answer standing found
  obtain rfl : result = .ok hub.nextId := answer
  let visit : Visit := ⟨hub.nextId, .serve (.start hub.nextId settings now) room now, after, [], [],
    [], false, []⟩
  have opened : open? hub settings room now = some visit := by
    rw [open?, subscribed]
  refine ⟨visit, opened, ⟨⟨[], ?conveyed⟩, ?dialogue, ?fed⟩, rfl, nofun⟩
  case conveyed =>
    exact ⟨rfl, Nat.zero_le _, nofun, fun _ => ⟨[], [], rfl, Nat.zero_le _, Nat.zero_le _⟩⟩
  case dialogue => exact ⟨.nil, nofun, fun _ => List.not_mem_nil, nofun⟩
  case fed =>
    refine ⟨?_, ⟨_, standing⟩, fun _ => ⟨mailbox, found, attached⟩, List.prefix_refl _, nofun, nofun⟩
    simp [visit, Connection.serve, Server.session?, Session.start]

end Visit

end Dashboard.Live
