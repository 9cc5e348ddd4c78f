import Dashboard.Proofs.Hub.Protocol

namespace Dashboard.Hub

/-- What a transition adds to the history, and what is known about the call it is about. -/
inductive Growth (system after : System) : Prop where
  | none (history : after.history = system.history) (inbox : after.inbox = system.inbox)
      (ended : system.phase = .ended → after.phase = .ended)
  | began {call : Call} (history : after.history = system.history ++ [⟨.began, call⟩])
      (inbox : after.inbox = system.inbox) (phase : after.phase = system.phase)
      (fresh : ∀ occasion, call ∉ calls system.history occasion)
  | entered {call : Call} (history : after.history = system.history ++ [⟨.entered, call⟩])
      (inbox : after.inbox = system.inbox ++ [call]) (phase : after.phase = system.phase)
      (unreturned : ∀ isOk, call ∉ calls system.history (.returned isOk))
  | returned {call : Call} {isOk : Bool}
      (history : after.history = system.history ++ [⟨.returned isOk, call⟩])
      (inbox : after.inbox = system.inbox) (phase : after.phase = system.phase)
      (refused : isOk = false → ¬(call ∈ calls system.history .handled ∨ call ∈ system.inbox))
      (answered : isOk = true → call.isAcknowledged = true → call ∈ calls system.history .handled)
      (stopped : call.isStop = true → system.phase = .ended)
  | handled {call : Call} (history : after.history = system.history ++ [⟨.handled, call⟩])
      (inbox : system.inbox = call :: after.inbox) (serving : system.phase = .serving)
  | discarded {call : Call} (history : after.history = system.history ++ [⟨.discarded, call⟩])
      (inbox : system.inbox = call :: after.inbox) (draining : system.phase = .draining)

theorem Sound.growth {system after : System} (sound : Sound system)
    (transition : System.Transition system after) : Growth system after := by
  have new (occasion : Occasion) (call : Call) (present : call ∈ calls system.history occasion) :
      call.number ≠ system.nextCall :=
    Nat.ne_of_lt (sound.recorded.numbered call (sound.recorded.begun occasion call present))
  cases transition with
  | stay => exact .none rfl rfl id
  | turn stands turns gone => exact .none rfl rfl id
  | subscribe idle => exact .began rfl rfl rfl fun occasion present => new occasion _ present rfl
  | call idle other => exact .began rfl rfl rfl fun occasion present => new occasion _ present rfl
  | @enter client call stands isOpen =>
    have fits := sound.fits client
    rw [stands] at fits
    exact .entered rfl rfl rfl fits.1.unreturned
  | @finish client call isOk stands =>
    obtain ⟨loop, finished⟩ := system.finish_eq client call isOk
    have fits := sound.fits client
    rw [stands] at fits
    rw [finished]
    cases isOk with
    | true => exact .returned rfl rfl rfl nofun (fun _ => fits.2.1) fits.2.2
    | false =>
      exact .returned rfl rfl rfl (fun _ => fits.2.2) nofun
        fun isStop => absurd (fits.2.1.symm.trans isStop) (by simp)
  | leave serving next isStop => exact .handled rfl next serving
  | handle serving next isStop =>
    rw [System.acknowledge_eq]
    exact .handled rfl next serving
  | close leaving => exact .none rfl rfl fun ended => absurd (leaving.symm.trans ended) (by simp)
  | discard draining next =>
    rw [System.acknowledge_eq]
    exact .discarded rfl next draining
  | finishLoop draining empty => exact .none rfl rfl fun _ => rfl
  | receive _ => exact .none rfl rfl id
  | detach _ => exact .none rfl rfl id

/-- In which order things have happened, at every point of a run. -/
structure Orderly (system : System) : Prop where
  refused : ∀ call ∈ calls system.history (.returned false),
    ¬(call ∈ calls system.history .handled ∨ call ∈ system.inbox)
  answered : ∀ call ∈ calls system.history (.returned true), call.isAcknowledged = true →
    Precedes system.history ⟨.handled, call⟩ ⟨.returned true, call⟩
  ended : ∀ isOk, ∀ stop ∈ calls system.history (.returned isOk), stop.isStop = true →
    system.phase = .ended ∧ ∀ call ∈ calls system.history .handled,
      Precedes system.history ⟨.handled, call⟩ ⟨.returned isOk, stop⟩
  early : ∀ call, ∀ stop ∈ calls system.history .entered,
    Precedes system.history ⟨.entered, call⟩ ⟨.began, stop⟩ →
      Precedes (calls system.history .entered) call stop
  later : ∀ first second, first.isAcknowledged = true →
    Precedes system.history ⟨.returned true, first⟩ ⟨.began, second⟩ →
    second ∈ calls system.history .handled →
      Precedes system.history ⟨.handled, first⟩ ⟨.handled, second⟩

namespace Orderly

variable {system after : System} {call : Call}

theorem start (buffer inboxCapacity : Nat) : Orderly (System.start buffer inboxCapacity) where
  refused _ present := by cases present
  answered _ present := by cases present
  ended _ _ present := by cases present
  early _ _ present := by cases present
  later _ _ _ _ present := by cases present

theorem quiet (orderly : Orderly system) (history : after.history = system.history)
    (inbox : after.inbox = system.inbox) (ended : system.phase = .ended → after.phase = .ended) :
    Orderly after where
  refused := by rw [history, inbox]; exact orderly.refused
  answered := by rw [history]; exact orderly.answered
  ended isOk stop present isStop := by
    rw [history] at present ⊢
    exact (orderly.ended isOk stop present isStop).imp_left ended
  early := by rw [history]; exact orderly.early
  later := by rw [history]; exact orderly.later

theorem grow (orderly : Orderly system) {occasion : Occasion}
    (history : after.history = system.history ++ [⟨occasion, call⟩])
    (refused : ∀ own ∈ calls after.history (.returned false),
      ¬(own ∈ calls after.history .handled ∨ own ∈ after.inbox))
    (fresh : occasion = .began → ∀ other, call ∉ calls system.history other)
    (answered : occasion = .returned true → call.isAcknowledged = true →
      call ∈ calls system.history .handled)
    (stopped : ∀ isOk, occasion = .returned isOk → call.isStop = true → after.phase = .ended)
    (ended : system.phase = .ended → after.phase = .ended ∧ occasion ≠ .handled) :
    Orderly after where
  refused := refused
  answered own present waits := by
    rw [history] at present ⊢
    rcases mem_calls_append.mp present with earlier | ⟨rfl, rfl⟩
    · exact (orderly.answered own earlier waits).append _
    · exact Precedes.of_mem (mem_calls.mp (answered rfl waits))
  ended isOk stop present isStop := by
    rw [history] at present ⊢
    rcases mem_calls_append.mp present with earlier | ⟨rfl, rfl⟩
    · obtain ⟨stood, before⟩ := orderly.ended isOk stop earlier isStop
      obtain ⟨stays, other⟩ := ended stood
      refine ⟨stays, fun own handled => ?_⟩
      rcases mem_calls_append.mp handled with earlier | ⟨latest, -⟩
      · exact (before own earlier).append _
      · exact absurd latest other
    · refine ⟨stopped isOk rfl isStop, fun own handled => ?_⟩
      rcases mem_calls_append.mp handled with earlier | ⟨latest, -⟩
      · exact Precedes.of_mem (mem_calls.mp earlier)
      · cases latest
  early own stop present precedes := by
    rw [history] at present precedes ⊢
    rcases Precedes.append_singleton.mp precedes with earlier | ⟨latest, -⟩
    · rw [calls_append]
      rcases mem_calls_append.mp present with entered | ⟨rfl, rfl⟩
      · exact (orderly.early own stop entered earlier).append _
      · exact Precedes.of_mem (mem_calls.mpr earlier.left_mem)
    · cases latest
      rcases mem_calls_append.mp present with entered | ⟨latest, -⟩
      · exact absurd entered (fresh rfl .entered)
      · cases latest
  later first second waits precedes present := by
    rw [history] at precedes present ⊢
    rcases Precedes.append_singleton.mp precedes with earlier | ⟨latest, -⟩
    · rcases mem_calls_append.mp present with handled | ⟨rfl, rfl⟩
      · exact (orderly.later first second waits earlier handled).append _
      · have returned := mem_calls.mpr earlier.left_mem
        exact Precedes.of_mem (orderly.answered first returned waits).left_mem
    · cases latest
      rcases mem_calls_append.mp present with handled | ⟨latest, -⟩
      · exact absurd handled (fresh rfl .handled)
      · cases latest

theorem growth (orderly : Orderly system) (growth : Growth system after) : Orderly after := by
  cases growth with
  | none history inbox ended => exact orderly.quiet history inbox ended
  | began history inbox phase fresh =>
    refine orderly.grow history ?_ (fun _ => fresh) nofun nofun fun ended => ⟨phase.trans ended, nofun⟩
    simpa [history, inbox, calls_append] using orderly.refused
  | entered history inbox phase unreturned =>
    refine orderly.grow history ?_ nofun nofun nofun fun ended => ⟨phase.trans ended, nofun⟩
    intro own present
    rw [history, mem_calls_append] at present
    rw [history, mem_calls_append, inbox, List.mem_append]
    simp only [reduceCtorEq, false_and, or_false] at present ⊢
    rintro (handled | waiting | latest)
    · exact orderly.refused own present (Or.inl handled)
    · exact orderly.refused own present (Or.inr waiting)
    · obtain rfl := List.mem_singleton.mp latest
      exact unreturned false present
  | returned history inbox phase refused answered stopped =>
    refine orderly.grow history ?_ nofun ?_ ?_ fun ended => ⟨phase.trans ended, nofun⟩
    · intro own present
      rw [history, mem_calls_append] at present
      rw [history, mem_calls_append, inbox]
      simp only [reduceCtorEq, false_and, or_false]
      rcases present with earlier | ⟨same, rfl⟩
      · exact orderly.refused own earlier
      · cases same
        exact refused rfl
    · intro same
      cases same
      exact answered rfl
    · intro _ _ isStop
      exact phase.trans (stopped isStop)
  | handled history inbox serving =>
    refine orderly.grow history ?_ nofun nofun nofun fun ended => ?_
    · intro own present accepted
      rw [history, mem_calls_append] at present accepted
      simp only [reduceCtorEq, false_and, or_false, true_and] at present accepted
      refine orderly.refused own present ?_
      rw [inbox]
      rcases accepted with (handled | rfl) | waiting
      · exact Or.inl handled
      · exact Or.inr List.mem_cons_self
      · exact Or.inr (List.mem_cons_of_mem _ waiting)
    · exact absurd (serving.symm.trans ended) (by simp)
  | discarded history inbox draining =>
    refine orderly.grow history ?_ nofun nofun nofun fun ended => ?_
    · intro own present accepted
      rw [history, mem_calls_append] at present accepted
      simp only [reduceCtorEq, false_and, or_false] at present accepted
      refine orderly.refused own present ?_
      rw [inbox]
      exact accepted.imp_right (List.mem_cons_of_mem _)
    · exact absurd (draining.symm.trans ended) (by simp)

theorem run (buffer inboxCapacity : Nat) (moves : List Move) :
    Sound ((System.start buffer inboxCapacity).run moves) ∧
      Orderly ((System.start buffer inboxCapacity).run moves) := by
  refine System.run_induction (fun system => Sound system ∧ Orderly system)
    ⟨Sound.start buffer inboxCapacity, start buffer inboxCapacity⟩ ?_ moves
  rintro before after ⟨sound, orderly⟩ transition
  exact ⟨sound.transition transition, orderly.growth (sound.growth transition)⟩

end Orderly
end Dashboard.Hub
