import Dashboard.Proofs.Hub.Arrival
import Dashboard.Proofs.Live.Progress

namespace Dashboard.Live

open WebSocket (Frame)
open Background (Wheel)

def Server.session? : Server → Option Session
  | .waiting session => some session
  | .sending session _ => some session
  | .gone => none

namespace Outgoing

def event? : Outgoing → Option Event
  | .event content => some content
  | _ => none

def reply? : Outgoing → Option Reply
  | .reply content => some content
  | _ => none

theorem frame_opcode_ne_pong (outgoing : Outgoing) : outgoing.frame.opcode ≠ .pong := by
  cases outgoing <;> simp [frame, Frame.ofText, Frame.whole]

end Outgoing

/-- A connection with the hub, and what has happened since it was opened. -/
structure Visit where
  id : Hub.Id
  connection : Connection
  hub : Hub.Service
  /-- The events that were put into the queue of the subscription. -/
  delivered : List Event
  sent : List Outgoing
  /-- The texts of the client that the session has taken. -/
  texts : List String
  foundClosed : Bool
  read : List Frame

inductive Turn where
  /-- The serving end takes a step, if it has anything to do. -/
  | serve (wheel : Wheel) (now : Instant)
  /-- Anything happens to the hub, but the reading end of the subscription is the session's. -/
  | hub (action : Hub.Action)
  | halt
  | send (frame : Frame)
  | read (count : Nat)
  | cut

namespace Visit

/-- A connection that is opened on a hub, unless the hub takes no subscriptions any more. -/
def open? (hub : Hub.Service) (settings : HealthSettings) (room : Nat) (now : Instant) :
    Option Visit :=
  match hub.subscribe with
  | (.ok id, hub, _) =>
    some ⟨id, .serve (.start id settings now) room now, hub, [], [], [], false, []⟩
  | (.error _, _, _) => none

/-- The visit after a step of the serving end to the given connection and hub. -/
def advance (visit : Visit) (connection : Connection) (hub : Hub.Service) : Visit :=
  { visit with
    connection := connection
    hub := hub
    sent := visit.sent ++ visit.connection.begun connection
    texts := visit.texts ++ (visit.connection.taken visit.hub).toList
    foundClosed := visit.foundClosed || visit.connection.findsClosed visit.hub }

/-- Whether an action is one of the reader of a subscription. -/
def isReading (id : Hub.Id) : Hub.Action → Bool
  | .receive other | .detach other => other = id
  | _ => false

def act (visit : Visit) : Turn → Visit
  | .serve wheel now =>
    match visit.connection.step visit.hub wheel now with
    | some (connection, hub, _) => visit.advance connection hub
    | none => visit
  | .hub action =>
    if isReading visit.id action then visit
    else { visit with hub := { visit.hub with loop := visit.hub.loop.step action } }
  | .halt => { visit with hub := { visit.hub with isRunning := false } }
  | .send frame => { visit with connection := (visit.connection.receive frame).2 }
  | .read count =>
    { visit with
      connection := { visit.connection with unread := visit.connection.unread.drop count }
      read := visit.read ++ visit.connection.unread.take count }
  | .cut => { visit with connection := visit.connection.cut }

def step (visit : Visit) (turn : Turn) : Visit :=
  { visit.act turn with
    delivered := visit.delivered ++
      Hub.Loop.arrived visit.hub.loop (visit.act turn).hub.loop visit.id }

def run (visit : Visit) (turns : List Turn) : Visit := turns.foldl step visit

/-- The times at which the serving end takes its steps. -/
def readings : List Turn → List Instant :=
  List.filterMap fun turn => match turn with
    | .serve _ now => some now
    | _ => none

/-- The serving end does nothing, or one of what a step can be. -/
theorem act_serve (visit : Visit) (wheel : Wheel) (now : Instant) :
    visit.act (.serve wheel now) = visit ∨
      ∃ connection hub, visit.connection.Progress visit.hub now connection hub ∧
        visit.act (.serve wheel now) = visit.advance connection hub := by
  rw [act]
  split
  · rename_i connection hub records stepped
    exact Or.inr ⟨connection, hub, .of_step stepped, rfl⟩
  · exact Or.inl rfl

theorem receive_cases (connection : Connection) (frame : Frame) :
    (connection.receive frame).2 = connection ∨
      (connection.receive frame).2 = { connection with inbox := connection.inbox ++ [frame] } := by
  unfold Connection.receive
  split
  · exact Or.inl rfl
  · exact Or.inr rfl
  · dsimp only
    split
    · exact Or.inr rfl
    · exact Or.inl rfl

/-- Running the serving end for some steps is a run of as many turns. -/
theorem run_replicate_serve (visit : Visit) (wheel : Wheel) (now : Instant) (bound : Nat) :
    let last := visit.run (List.replicate bound (.serve wheel now))
    let outcome := Connection.runSteps wheel now bound visit.connection visit.hub
    last.connection = outcome.1 ∧ last.hub = outcome.2.1 ∧ last.read = visit.read := by
  induction bound generalizing visit with
  | zero => exact ⟨rfl, rfl, rfl⟩
  | succ bound inductionHypothesis =>
    have later := inductionHypothesis (visit.step (.serve wheel now))
    simp only [List.replicate_succ, run, List.foldl_cons] at later ⊢
    cases stepped : visit.connection.step visit.hub wheel now with
    | none =>
      have idle : visit.act (.serve wheel now) = visit := by simp [act, stepped]
      have waits : Connection.runSteps wheel now bound visit.connection visit.hub =
          (visit.connection, visit.hub, []) := by
        cases bound <;> simp [Connection.runSteps, stepped]
      simp only [step, idle, waits, Connection.runSteps, stepped] at later ⊢
      exact later
    | some outcome =>
      obtain ⟨connection, hub, records⟩ := outcome
      have next : visit.act (.serve wheel now) = visit.advance connection hub := by
        simp [act, stepped]
      simp only [step, next, Connection.runSteps, stepped] at later ⊢
      exact later

/-- The client reading until nothing more comes is a run in which it reads and the serving end takes
its steps, time after time. -/
theorem run_readAll (visit : Visit) (wheel : Wheel) (now : Instant) (rounds : Nat) :
    ∃ turns,
      let outcome := Connection.readAll wheel now rounds visit.connection visit.hub
      (visit.run turns).connection = outcome.2.1 ∧ (visit.run turns).hub = outcome.2.2.1 ∧
        (visit.run turns).read = visit.read ++ outcome.1 := by
  induction rounds generalizing visit with
  | zero => exact ⟨[], rfl, rfl, (List.append_nil _).symm⟩
  | succ rounds inductionHypothesis =>
    cases unread : visit.connection.unread with
    | nil =>
      simp only [Connection.readAll, unread]
      exact ⟨[], rfl, rfl, (List.append_nil _).symm⟩
    | cons frame rest =>
      let emptied := visit.step (.read (rest.length + 1))
      have nothing : emptied.connection = { visit.connection with unread := [] } := by
        simp [emptied, step, act, unread]
      have readAll : emptied.read = visit.read ++ (frame :: rest) := by
        simp [emptied, step, act, unread]
      let bound := emptied.connection.bound visit.hub wheel
      obtain ⟨connection, hub, read⟩ := emptied.run_replicate_serve wheel now bound
      obtain ⟨turns, later⟩ :=
        inductionHypothesis (emptied.run (List.replicate bound (.serve wheel now)))
      have split : visit.run (.read (rest.length + 1) :: List.replicate bound (.serve wheel now) ++
          turns) = (emptied.run (List.replicate bound (.serve wheel now))).run turns := by
        simp [run, emptied]
      have served : emptied.connection.run visit.hub wheel now =
          Connection.runSteps wheel now bound emptied.connection emptied.hub := rfl
      refine ⟨.read (rest.length + 1) :: List.replicate bound (.serve wheel now) ++ turns, ?_⟩
      rw [split]
      simp only [Connection.readAll, unread, ← nothing, served]
      simp only [connection, hub, read, readAll, List.append_assoc] at later
      exact later

end Visit

/-- Answers to pings of the client are the transport's own and left aside. -/
def isOwn (frame : Frame) : Bool := frame.opcode ≠ .pong

namespace Connection

theorem fitting_append {room : Nat} {front : List Frame} (fits : Frame.totalSize front ≤ room)
    (rest : List Frame) :
    fitting room (front ++ rest) = front ++ fitting (room - Frame.totalSize front) rest := by
  induction front generalizing room with
  | nil => rfl
  | cons frame front inductionHypothesis =>
    have sum : Frame.totalSize (frame :: front) = frame.size + Frame.totalSize front := rfl
    have small : frame.size ≤ room := by omega
    have others : Frame.totalSize front ≤ room - frame.size := by omega
    rw [List.cons_append, fitting, if_pos small, inductionHypothesis others, sum, Nat.sub_sub]
    rfl

theorem fitting_prefix (room : Nat) (frames : List Frame) : fitting room frames <+: frames := by
  induction frames generalizing room with
  | nil => exact List.prefix_refl _
  | cons frame rest inductionHypothesis =>
    rw [fitting]
    split
    · exact (List.prefix_cons_inj frame).mpr (inductionHypothesis _)
    · exact List.nil_prefix

theorem fitting_of_flushed {connection : Connection} (flushed : connection.isFlushed = true) :
    fitting connection.room connection.unread = connection.unread := by
  have fits : Frame.totalSize connection.unread ≤ connection.room := by
    simpa [isFlushed] using flushed
  have kept := fitting_append fits []
  rwa [List.append_nil, fitting, List.append_nil] at kept

/-- How many frames of a session can be on the way behind those that fit on it. -/
def pending (connection : Connection) : Nat :=
  match connection.server with
  | .sending .. => 1
  | _ => 0

/-- What is on the way to the client, with at most the frame that is being sent behind what fits. -/
def IsSent (connection : Connection) : Prop :=
  ∃ front rest, connection.unread = front ++ rest ∧ Frame.totalSize front ≤ connection.room ∧
    (rest.filter isOwn).length ≤ connection.pending

/-- What does not fit is lost when the serving end goes away. -/
theorem IsSent.fitting {connection : Connection} (sent : connection.IsSent) :
    ∃ lost, connection.unread.filter isOwn =
        (fitting connection.room connection.unread).filter isOwn ++ lost ∧
      lost.length ≤ connection.pending := by
  obtain ⟨front, rest, unread, fits, few⟩ := sent
  obtain ⟨dropped, split⟩ := fitting_prefix (connection.room - Frame.totalSize front) rest
  refine ⟨dropped.filter isOwn, ?_, ?_⟩
  · rw [unread, fitting_append fits, ← List.filter_append, List.append_assoc, split]
  · rw [← split, List.filter_append, List.length_append] at few
    omega

end Connection

namespace Visit

/-- The frames that have been read by the client or are on the way to it. -/
def frames (visit : Visit) : List Frame := (visit.read ++ visit.connection.unread).filter isOwn

/-- What was sent is with the client or on the way to it. Only a connection that was cut may lose a
frame at the end. -/
structure Conveyed (visit : Visit) (lost : List Frame) : Prop where
  account : visit.sent.map Outgoing.frame = visit.frames ++ lost
  atMostOne : lost.length ≤ 1
  onlyCut : lost ≠ [] → visit.connection.isGone = true ∧ visit.connection.isCut = true
  isSent : visit.connection.isGone = false → visit.connection.IsSent

namespace Conveyed

variable {visit : Visit} {lost : List Frame} {connection : Connection} {hub : Hub.Service}
  {now : Instant}

theorem lost_eq_nil (conveyed : Conveyed visit lost) (serving : visit.connection.isGone = false) :
    lost = [] := by
  by_contra present
  have gone := (conveyed.onlyCut present).1
  rw [serving] at gone
  cases gone

/-- The serving end has gone away from a connection, with what fits on the way still going. -/
theorem close (conveyed : Conveyed visit lost) (serving : visit.connection.isGone = false)
    (gone : connection.isGone = true) (begun : visit.connection.begun connection = [])
    (unread : connection.unread =
      Connection.fitting visit.connection.room visit.connection.unread)
    (isCut : connection.isCut = visit.connection.isCut)
    (few : visit.connection.pending = 0 ∨ visit.connection.isCut = true) :
    ∃ lost, Conveyed (visit.advance connection hub) lost := by
  obtain ⟨dropped, split, count⟩ := (conveyed.isSent serving).fitting
  have bounded : visit.connection.pending ≤ 1 := by
    unfold Connection.pending
    split <;> omega
  refine ⟨dropped, ?account, by omega, ?onlyCut, ?isSent⟩
  case account =>
    have account := conveyed.account
    rw [conveyed.lost_eq_nil serving, List.append_nil, frames, List.filter_append, split] at account
    rw [advance, begun, List.append_nil, frames, List.filter_append, List.append_assoc, unread]
    exact account
  case onlyCut =>
    intro lostSome
    refine ⟨gone, isCut.trans (few.resolve_left ?_)⟩
    intro nonePending
    rw [nonePending] at count
    exact lostSome (List.eq_nil_of_length_eq_zero (Nat.le_zero.mp count))
  case isSent =>
    intro still
    cases gone.symm.trans still

/-- The serving end has put frames on the way, of which the session's own are what it begins to send. -/
theorem extend (conveyed : Conveyed visit lost) (serving : visit.connection.isGone = false)
    {more : List Frame} (unread : connection.unread = visit.connection.unread ++ more)
    (room : connection.room = visit.connection.room)
    (own : more.filter isOwn = (visit.connection.begun connection).map Outgoing.frame)
    (few : visit.connection.pending + (more.filter isOwn).length ≤ connection.pending) :
    ∃ lost, Conveyed (visit.advance connection hub) lost := by
  obtain ⟨front, rest, split, fits, fewer⟩ := conveyed.isSent serving
  refine ⟨[], ?account, Nat.zero_le _, nofun, fun _ => ⟨front, rest ++ more, ?unread, ?fits, ?few⟩⟩
  case account =>
    have account := conveyed.account
    rw [conveyed.lost_eq_nil serving, List.append_nil, frames] at account
    rw [Visit.advance, List.map_append, account, ← own, frames, unread, List.append_nil,
      ← List.append_assoc, ← List.filter_append]
  case unread => rw [Visit.advance, unread, split, List.append_assoc]
  case fits =>
    rw [Visit.advance, room]
    exact fits
  case few =>
    rw [List.filter_append, List.length_append]
    exact Nat.le_trans (Nat.add_le_add_right fewer _) few

theorem advance (conveyed : Conveyed visit lost)
    (progress : visit.connection.Progress visit.hub now connection hub) :
    ∃ lost, Conveyed (visit.advance connection hub) lost := by
  cases progress with
  | @begin session next outgoing _ waiting same cause sending unread keeps =>
    have serving : visit.connection.isGone = false := by simp [Connection.isGone, waiting]
    have own : isOwn outgoing.frame = true := by
      simpa [isOwn] using outgoing.frame_opcode_ne_pong
    exact conveyed.extend serving unread keeps.room (by simp [Connection.begun, waiting, sending, own])
      (by simp [Connection.pending, waiting, sending, own])
  | stay next pongs waiting same pending nothing waits unread pong keeps =>
    have serving : visit.connection.isGone = false := by simp [Connection.isGone, waiting]
    have others : pongs.filter isOwn = [] := by simpa [isOwn] using pong
    exact conveyed.extend serving unread keeps.room (by simp [Connection.begun, waits, others])
      (by simp [Connection.pending, waiting, others])
  | leave waiting pending nothing gone unread keeps =>
    have serving : visit.connection.isGone = false := by simp [Connection.isGone, waiting]
    exact conveyed.close serving (by simp [Connection.isGone, gone])
      (by simp [Connection.begun, waiting, gone]) unread keeps.isCut
      (Or.inl (by simp [Connection.pending, waiting]))
  | @sent session next outgoing sending same flushed goesOn =>
    have serving : visit.connection.isGone = false := by simp [Connection.isGone, sending]
    refine ⟨[], ?account, Nat.zero_le _, nofun, fun _ => ?isSent⟩
    case account =>
      have account := conveyed.account
      rw [conveyed.lost_eq_nil serving] at account
      simp only [Visit.advance, frames, Connection.begun, sending, List.append_nil, account]
    case isSent =>
      have fits : Frame.totalSize visit.connection.unread ≤ visit.connection.room := by
        simpa [Connection.isFlushed] using flushed
      exact ⟨visit.connection.unread, [], (List.append_nil _).symm, fits, Nat.zero_le _⟩
  | @finish session outgoing sending ends =>
    have serving : visit.connection.isGone = false := by simp [Connection.isGone, sending]
    have begun : visit.connection.begun visit.connection.close = [] := by
      simp [Connection.begun, sending]
    rcases ends with isCut | flushed
    · exact conveyed.close serving rfl begun rfl rfl (Or.inr isCut)
    · have account := conveyed.account
      rw [conveyed.lost_eq_nil serving, List.append_nil, frames] at account
      refine ⟨[], ?_, Nat.zero_le _, nofun, nofun⟩
      rw [Visit.advance, begun, List.append_nil, List.append_nil, frames]
      rw [account, Connection.close, Connection.fitting_of_flushed flushed]
  | overrun waiting pending nothing late =>
    have serving : visit.connection.isGone = false := by simp [Connection.isGone, waiting]
    have begun : visit.connection.begun visit.connection.close = [] := by
      simp [Connection.begun, Connection.close]
    exact conveyed.close serving rfl begun rfl rfl
      (Or.inl (by simp [Connection.pending, waiting]))

theorem read (conveyed : Conveyed visit lost) (count : Nat) :
    Conveyed (visit.act (.read count)) lost where
  account := by
    have sameFrames : (visit.act (.read count)).frames = visit.frames := by
      simp only [act, frames, List.append_assoc, List.take_append_drop]
    rw [sameFrames]
    exact conveyed.account
  atMostOne := conveyed.atMostOne
  onlyCut := conveyed.onlyCut
  isSent := by
    intro serving
    obtain ⟨front, rest, split, fits, few⟩ := conveyed.isSent serving
    refine ⟨front.drop count, rest.drop (count - front.length), ?_, ?_, ?_⟩
    · rw [act, split, List.drop_append]
    · have whole := Frame.totalSize_append (front.take count) (front.drop count)
      rw [List.take_append_drop] at whole
      exact Nat.le_trans (by omega) fits
    · have fewer := ((List.drop_sublist (count - front.length) rest).filter isOwn).length_le
      exact Nat.le_trans fewer few

theorem act (conveyed : Conveyed visit lost) (turn : Turn) :
    ∃ lost, Conveyed (visit.act turn) lost := by
  cases turn with
  | serve wheel now =>
    rcases visit.act_serve wheel now with same | ⟨connection, hub, progress, next⟩
    · rw [same]
      exact ⟨lost, conveyed⟩
    · rw [next]
      exact conveyed.advance progress
  | hub action =>
    rw [Visit.act]
    split
    · exact ⟨lost, conveyed⟩
    · exact ⟨lost, conveyed.account, conveyed.atMostOne, conveyed.onlyCut, conveyed.isSent⟩
  | halt => exact ⟨lost, conveyed.account, conveyed.atMostOne, conveyed.onlyCut, conveyed.isSent⟩
  | send frame =>
    rcases receive_cases visit.connection frame with same | came
    · rw [Visit.act, same]
      exact ⟨lost, conveyed⟩
    · rw [Visit.act, came]
      exact ⟨lost, conveyed.account, conveyed.atMostOne, conveyed.onlyCut, conveyed.isSent⟩
  | read count => exact ⟨lost, conveyed.read count⟩
  | cut =>
    have onlyCut (lostSome : lost ≠ []) : visit.connection.cut.isGone = true ∧
        visit.connection.cut.isCut = true := ⟨(conveyed.onlyCut lostSome).1, rfl⟩
    exact ⟨lost, conveyed.account, conveyed.atMostOne, onlyCut, conveyed.isSent⟩

end Conveyed

end Visit
end Dashboard.Live
