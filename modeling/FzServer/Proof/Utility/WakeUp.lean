import FzServer.Proof.Utility.LogOrder

/-
This file looks for notifications that the background thread of the logger misses.
-/

namespace FzServer.Utility

open Foundation

namespace LogSystem

/-- The predicate of the wait holds. -/
def Ready (system : LogSystem) : Prop :=
  system.logger.m_log_queue ≠ [] ∨ system.logger.m_running = false

/-- A log or stop call in progress has still to issue its notification. -/
def Outstanding (system : LogSystem) : Prop :=
  (∃ thread, system.callers thread ≠ none) ∨ system.stopping = .flagged

/-- Nobody wakes the thread although there is work for it. -/
def LostWakeUp (system : LogSystem) : Prop :=
  system.background = .blocked ∧ system.Ready ∧ ¬system.Outstanding

/-- A notification between the predicate and the wait is not the last one for the work at hand. -/
def Timely (system : LogSystem) : LogAction → Prop
  | .notify thread => system.background = .block → system.Ready →
      (∃ other, other ≠ thread ∧ system.callers other ≠ none) ∨ system.stopping = .flagged
  | .notifyAll => system.background = .block → system.Ready →
      ∃ thread, system.callers thread ≠ none
  | _ => True

/-- Work that the thread has not seen before its wait is still to be notified. -/
def Covered (system : LogSystem) : Prop :=
  system.background = .block ∨ system.background = .blocked → system.Ready → system.Outstanding

section Steps

variable {system next : LogSystem}

theorem Covered.of_idle (idle : ¬system.Ready) : Covered system :=
  fun _ ready => absurd ready idle

theorem Covered.of_away (away : system.background ≠ .block ∧ system.background ≠ .blocked) :
    Covered system :=
  fun place _ => (place.elim away.1 away.2).elim

theorem Covered.of_caller {thread : Nat} {caller : Caller} {callers : Nat → Option Caller}
    (same : next.callers = Function.update callers thread (some caller)) : Covered next := by
  refine fun _ _ => Or.inl ⟨thread, ?_⟩
  rw [same, Function.update_self]
  exact Option.some_ne_none caller

/-- Only a thread in front of its wait stays there. -/
theorem wake_place (place : system.wake.background = .block ∨ system.wake.background = .blocked) :
    system.background = .block ∧ system.wake = system := by
  by_cases blocked : system.background = .blocked
  · rw [wake, if_pos blocked] at place
    exact place.elim nofun nofun
  · rw [wake, if_neg blocked] at place ⊢
    exact ⟨place.resolve_right blocked, rfl⟩

theorem Covered.notify (thread : Nat) (timely : system.Timely (.notify thread)) :
    Covered { system.wake with callers := Function.update system.callers thread none } := by
  intro place ready
  obtain ⟨block, same⟩ := wake_place place
  change Ready system.wake at ready
  rw [same] at ready
  refine (timely block ready).imp ?_ fun flagged => ?_
  · rintro ⟨other, different, busy⟩
    refine ⟨other, ?_⟩
    change Function.update system.callers thread none other ≠ none
    rw [Function.update_of_ne different]
    exact busy
  · change system.wake.stopping = .flagged
    rw [same]
    exact flagged

theorem Covered.notifyAll (timely : system.Timely .notifyAll) :
    Covered { system.wake with stopping := .notified } := by
  intro place ready
  obtain ⟨block, same⟩ := wake_place place
  change Ready system.wake at ready
  rw [same] at ready
  obtain ⟨thread, busy⟩ := timely block ready
  refine Or.inl ⟨thread, ?_⟩
  change system.wake.callers thread ≠ none
  rw [same]
  exact busy

theorem Covered.turns (covered : Covered system) {background : Background}
    (turn : Turns system.logger system.background background) :
    Covered { system with background := background } := by
  unfold Covered at covered
  generalize system.background = place at turn covered
  cases turn with
  | waits queue running =>
      apply Covered.of_idle
      rintro (full | halted)
      · exact full queue
      · exact absurd (running.symm.trans halted) nofun
  | blocks => exact fun _ ready => covered (Or.inl rfl) ready
  | runs | halts | returns | continues | ready | wakes | drained | takes | fails | keeps =>
      exact Covered.of_away ⟨nofun, nofun⟩

theorem Covered.moves (covered : Covered system) {action : LogAction}
    (timely : system.Timely action) (move : Moves system action next) : Covered next := by
  cases move with
  | ignores => exact covered
  | enters | counts | pushes => exact Covered.of_caller rfl
  | notifies thread => exact Covered.notify thread timely
  | turns response turn => exact covered.turns turn
  | pops | writes | rotates | throws | wakes => exact Covered.of_away ⟨nofun, nofun⟩
  | stops => exact fun _ _ => Or.inr rfl
  | notifiesAll => exact Covered.notifyAll timely
  | joins notified place =>
      rintro (block | blocked)
      · exact absurd (place.symm.trans block) nofun
      · exact absurd (place.symm.trans blocked) nofun

theorem step_block (block : system.background = .block) (response : Response) :
    system.step (.process_logs response) = some { system with background := .blocked } := by
  have runs : system.background ≠ .thrown := by
    rw [block]
    exact nofun
  rw [step, if_neg runs]
  simp only [process_logs, block]

theorem wake_block (block : system.background = .block) : system.wake = system := by
  apply if_neg
  rw [block]
  exact nofun

theorem caller_stays {callers : Nat → Option Caller} {thread other : Nat}
    (busy : Function.update callers thread none other ≠ none) :
    other ≠ thread ∧ callers other ≠ none := by
  by_cases same : other = thread
  · rw [same, Function.update_self] at busy
    exact absurd rfl busy
  · rw [Function.update_of_ne same] at busy
    exact ⟨same, busy⟩

/-- The thread itself completes the loss behind any step that is not timely. -/
theorem untimely_loses {action : LogAction} (late : ¬system.Timely action)
    (now : system.step action = some next) (response : Response) :
    ∃ lost, next.step (.process_logs response) = some lost ∧ lost.LostWakeUp := by
  have move := step_moves now
  cases action with
  | enter | count | push | process_logs | spurious | stop | join => exact absurd trivial late
  | notify thread =>
      obtain ⟨block, late⟩ := Classical.not_imp.mp late
      obtain ⟨ready, quiet⟩ := Classical.not_imp.mp late
      cases move with
      | notifies =>
          rw [wake_block block]
          refine ⟨_, step_block ?_ response, rfl, ready, fun outstanding => quiet ?_⟩
          · exact block
          · exact outstanding.imp_left fun ⟨other, busy⟩ => ⟨other, caller_stays busy⟩
  | notifyAll =>
      obtain ⟨block, late⟩ := Classical.not_imp.mp late
      obtain ⟨ready, quiet⟩ := Classical.not_imp.mp late
      cases move with
      | notifiesAll =>
          rw [wake_block block]
          refine ⟨_, step_block ?_ response, rfl, ready, fun outstanding => quiet ?_⟩
          · exact block
          · exact outstanding.resolve_right nofun

end Steps

/-- No notification is lost while each one that comes in front of the wait has a follower. -/
theorem lostWakeUp_unreachable {start final : LogSystem} {schedule : List LogAction}
    (idle : ¬start.Ready) (timely : Meets step Timely start schedule)
    (run : follow step start schedule = some final) : ¬final.LostWakeUp := by
  have covered := follow_invariant_of_meets Covered
    (fun system action next covered timely now => covered.moves timely (step_moves now))
    (Covered.of_idle idle) timely run
  rintro ⟨blocked, ready, quiet⟩
  exact quiet (covered (Or.inr blocked) ready)

private def lateCall : LogCall := ⟨.INFO, [], 0, [], []⟩

private def turn : LogAction := .process_logs ⟨[], true, true⟩

/-- The second thread notifies the background thread behind its wait. -/
def followed : List LogAction :=
  [.enter 0 lateCall, .count 0, turn, turn, .push 0, .enter 1 lateCall, .notify 0, turn, .count 1,
    .push 1, .notify 1]

theorem lostWakeUp_unreachable_followed :
    let start := started (fun _ => []) [] [] .DEBUG 0
    ¬((follow step start followed).get (by decide +kernel)).LostWakeUp := by
  refine @lostWakeUp_unreachable _ _ followed ?_ ?_ (Option.some_get _).symm
  · exact not_or.mpr ⟨fun full => full rfl, nofun⟩
  · refine .cons trivial rfl (.cons trivial rfl (.cons trivial rfl (.cons trivial rfl ?_)))
    refine .cons trivial rfl (.cons trivial rfl (.cons ?_ rfl ?_))
    · exact fun _ _ => Or.inl ⟨1, by decide, nofun⟩
    · refine .cons trivial rfl (.cons trivial rfl (.cons trivial rfl (.cons nofun rfl ?_)))
      exact trivial

/-- The only notification comes between the predicate and the wait. -/
def late : List LogAction :=
  [.enter 0 lateCall, .count 0, turn, turn, .push 0, .notify 0, turn]

theorem lostWakeUp_late :
    ¬∀ (schedule : List LogAction) (final : LogSystem),
      follow step (started (fun _ => []) [] [] .DEBUG 0) schedule = some final →
        ¬final.LostWakeUp := by
  intro never
  refine never late _ rfl ⟨rfl, Or.inl (by decide), not_or.mpr ⟨?_, nofun⟩⟩
  rintro ⟨thread, busy⟩
  obtain ⟨away, busy⟩ := caller_stays busy
  simp [started, Function.update_of_ne away] at busy

end LogSystem

end FzServer.Utility
