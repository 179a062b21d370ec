import FzServer.Proof.Utility.LogOrder

/-
This file follows the background thread of the logger from the stop to its return.
-/

namespace FzServer.Utility

open Foundation

namespace LogAction

/-- The background thread takes this step. -/
def turns : LogAction → Nat
  | .process_logs _ => 1
  | _ => 0

def pushes : LogAction → Nat
  | .push _ => 1
  | _ => 0

end LogAction

namespace LogSystem

variable {system next : LogSystem} {action : LogAction}

/-- The thread has left its loop only behind a stop, and it pops only what is there. -/
structure Sane (system : LogSystem) : Prop where
  taken : system.background = .pop → system.logger.m_log_queue ≠ []
  left : system.background = .testQueue ∨ system.background = .returned →
    system.logger.m_running = false
  halted : system.logger.m_running = false → system.stopping ≠ .idle

theorem Sane.start (disk : List UInt8 → List UInt8) (filename file : List UInt8) (level : Level)
    (bytes : Int) : Sane (.started disk filename file level bytes) := ⟨nofun, nofun, nofun⟩

/-- A place between the tests of the loop asks for nothing. -/
theorem Sane.goes {other : LogSystem} (sane : Sane system) {background : Background}
    (running : other.logger.m_running = system.logger.m_running)
    (stopping : other.stopping = system.stopping)
    (inside : background ≠ .pop ∧ background ≠ .testQueue ∧ background ≠ .returned) :
    Sane { other with background := background } where
  taken place := absurd place inside.1
  left place := (place.elim inside.2.1 inside.2.2).elim
  halted still := stopping ▸ sane.halted (running ▸ still)

theorem Sane.wake (sane : Sane system) : Sane system.wake := by
  unfold LogSystem.wake
  split_ifs
  · exact sane.goes rfl rfl (by decide)
  · exact sane

theorem write_stopping (log_entry : List UInt8) (accepts : Bool) :
    (system.write log_entry accepts).stopping = system.stopping := by
  unfold LogSystem.write
  split <;> rfl

theorem rotate_stopping {response : Response} (rotated : system.rotate response = some next) :
    next.stopping = system.stopping := by
  unfold LogSystem.rotate LogSystem.openFile at rotated
  split_ifs at rotated
  cases rotated
  change system.close.stopping = _
  unfold LogSystem.close
  split <;> rfl

theorem Sane.turns (sane : Sane system) {background : Background}
    (turn : Turns system.logger system.background background) :
    Sane { system with background := background } := by
  have left := sane.left
  generalize system.background = place at turn left
  cases turn with
  | halts running => exact ⟨nofun, fun _ => running, sane.halted⟩
  | returns => exact ⟨nofun, fun _ => left (Or.inl rfl), sane.halted⟩
  | takes queue => exact ⟨fun _ => queue, nofun, sane.halted⟩
  | runs | continues | ready | waits | blocks | wakes | drained | fails | keeps =>
      exact sane.goes rfl rfl (by simp)

theorem Sane.moves (sane : Sane system) (move : Moves system action next) : Sane next := by
  have woken := sane.wake
  cases move with
  | ignores => exact sane
  | enters | counts => exact ⟨sane.taken, sane.left, sane.halted⟩
  | pushes => exact ⟨fun _ => by simp, sane.left, sane.halted⟩
  | notifies => exact ⟨woken.taken, woken.left, woken.halted⟩
  | notifiesAll => exact ⟨woken.taken, woken.left, fun _ => nofun⟩
  | turns response turn => exact sane.turns turn
  | pops => exact ⟨nofun, nofun, sane.halted⟩
  | writes response =>
      exact sane.goes (write_running _ response.accepts) (write_stopping _ response.accepts)
        (by decide)
  | rotates response place full done =>
      exact sane.goes (rotate_running done) (rotate_stopping done) (by decide)
  | throws | wakes => exact sane.goes rfl rfl (by decide)
  | stops => exact ⟨sane.taken, fun _ => rfl, fun _ => nofun⟩
  | joins => exact ⟨sane.taken, sane.left, fun _ => nofun⟩

/-- The logger is stopped, and the thread does not wait without a notification to come. -/
structure Halting (system : LogSystem) : Prop where
  running : system.logger.m_running = false
  awake : system.background ≠ .block
  notified : system.background = .blocked → system.stopping = .flagged
  taken : system.background = .pop → system.logger.m_log_queue ≠ []

/-- The thread takes so many steps until it returns if nothing more is pushed. -/
def stepsFrom (waiting : Nat) : Background → Nat
  | .testRunning => if waiting = 0 then 2 else 4 * waiting + 6
  | .testQueue => if waiting = 0 then 1 else 4 * waiting + 5
  | .evaluate | .written => 4 * waiting + 4
  | .block => 4 * waiting + 6
  | .blocked | .woken | .popped _ => 4 * waiting + 5
  | .drain => 4 * waiting + 3
  | .pop => 4 * waiting + 2
  | .returned | .thrown => 0

def remaining (system : LogSystem) : Nat :=
  stepsFrom system.logger.m_log_queue.length system.background

theorem stepsFrom_le (waiting : Nat) (place : Background) :
    stepsFrom waiting place ≤ 4 * waiting + 6 := by
  cases place with
  | testRunning | testQueue =>
      simp only [stepsFrom]
      split_ifs <;> omega
  | _ =>
      simp only [stepsFrom]
      omega

/-- A push asks for one more round through the loop at most. -/
theorem stepsFrom_push (waiting : Nat) (place : Background) :
    stepsFrom (waiting + 1) place ≤ stepsFrom waiting place + 8 := by
  cases place with
  | testRunning | testQueue =>
      simp only [stepsFrom]
      split_ifs <;> omega
  | _ =>
      simp only [stepsFrom]
      omega

/-- A thread that is woken up has as many steps to take as before. -/
theorem remaining_wake (system : LogSystem) : system.wake.remaining = system.remaining := by
  unfold LogSystem.wake
  split_ifs with blocked
  · rw [remaining, remaining, blocked]
    rfl
  · rfl

/-- A notification leaves nobody waiting. -/
theorem wake_awake (system : LogSystem) : system.wake.background ≠ .blocked := by
  unfold LogSystem.wake
  split_ifs with blocked
  · exact nofun
  · exact blocked

theorem Halting.wake (halting : Halting system) : Halting system.wake := by
  unfold LogSystem.wake
  split_ifs
  · exact ⟨halting.running, nofun, nofun, nofun⟩
  · exact halting

/-- Behind the stop, every step of the thread brings it nearer to its return. -/
theorem Halting.turns (halting : Halting system) {background : Background}
    (turn : Turns system.logger system.background background) :
    Halting { system with background := background } ∧
      stepsFrom system.logger.m_log_queue.length background + 1 ≤ system.remaining := by
  obtain ⟨running, awake, _, _⟩ := halting
  unfold remaining
  generalize system.background = place at turn awake
  cases turn with
  | runs still | waits _ still => exact absurd (running.symm.trans still) nofun
  | blocks => exact absurd rfl awake
  | halts =>
      refine ⟨⟨running, nofun, nofun, nofun⟩, ?_⟩
      simp only [stepsFrom]
      split_ifs <;> omega
  | returns queue =>
      refine ⟨⟨running, nofun, nofun, nofun⟩, ?_⟩
      simp [stepsFrom, queue]
  | continues queue =>
      refine ⟨⟨running, nofun, nofun, nofun⟩, ?_⟩
      simp [stepsFrom, queue]
  | drained queue =>
      refine ⟨⟨running, nofun, nofun, nofun⟩, ?_⟩
      simp [stepsFrom, queue]
  | takes queue => exact ⟨⟨running, nofun, nofun, fun _ => queue⟩, Nat.le_refl _⟩
  | ready | wakes | keeps => exact ⟨⟨running, nofun, nofun, nofun⟩, Nat.le_refl _⟩
  | fails => exact ⟨⟨running, nofun, nofun, nofun⟩, Nat.succ_le_succ (Nat.zero_le _)⟩

theorem write_queue (log_entry : List UInt8) (accepts : Bool) :
    (system.write log_entry accepts).logger.m_log_queue = system.logger.m_log_queue := by
  unfold LogSystem.write
  split <;> rfl

theorem rotate_queue {response : Response} (rotated : system.rotate response = some next) :
    next.logger.m_log_queue = system.logger.m_log_queue := by
  unfold LogSystem.rotate LogSystem.openFile at rotated
  split_ifs at rotated
  cases rotated
  change system.close.logger.m_log_queue = _
  unfold LogSystem.close
  split <;> rfl

/-- A push adds eight steps at most, and the thread takes one of them in each of its own. -/
theorem Halting.moves (halting : Halting system) (move : Moves system action next) :
    Halting next ∧ next.remaining + action.turns ≤ system.remaining + 8 * action.pushes := by
  have woken := halting.wake
  have same := remaining_wake system
  cases move with
  | ignores => exact ⟨halting, Nat.le_refl _⟩
  | enters | counts =>
      exact ⟨⟨halting.running, halting.awake, halting.notified, halting.taken⟩, Nat.le_refl _⟩
  | pushes =>
      refine ⟨⟨halting.running, halting.awake, halting.notified, fun _ => by simp⟩, ?_⟩
      simp only [remaining, List.length_append, List.length_singleton]
      exact stepsFrom_push _ _
  | notifies =>
      exact ⟨⟨woken.running, woken.awake, woken.notified, woken.taken⟩, Nat.le_of_eq same⟩
  | notifiesAll =>
      refine ⟨⟨woken.running, woken.awake, fun blocked => ?_, woken.taken⟩, Nat.le_of_eq same⟩
      exact absurd blocked (wake_awake system)
  | turns response turn => exact halting.turns turn
  | pops response place queue =>
      refine ⟨⟨halting.running, nofun, nofun, nofun⟩, ?_⟩
      simp only [remaining, place, queue, List.length_cons, stepsFrom, LogAction.turns]
      omega
  | writes response place =>
      refine ⟨⟨(write_running _ _).trans halting.running, nofun, nofun, nofun⟩, ?_⟩
      simp only [remaining, place, write_queue, stepsFrom, LogAction.turns]
      omega
  | rotates response place full done =>
      refine ⟨⟨(rotate_running done).trans halting.running, nofun, nofun, nofun⟩, ?_⟩
      simp only [remaining, place, rotate_queue done, stepsFrom, LogAction.turns]
      omega
  | throws response place =>
      refine ⟨⟨halting.running, nofun, nofun, nofun⟩, ?_⟩
      simp only [remaining, place, stepsFrom, LogAction.turns]
      omega
  | wakes place =>
      refine ⟨⟨halting.running, nofun, nofun, nofun⟩, ?_⟩
      simp only [remaining, place, stepsFrom, LogAction.turns]
      omega
  | stops =>
      exact ⟨⟨rfl, halting.awake, fun _ => rfl, halting.taken⟩, Nat.le_refl _⟩
  | joins notified place =>
      refine ⟨⟨halting.running, halting.awake, fun blocked => ?_, halting.taken⟩, Nat.le_refl _⟩
      exact absurd (place.symm.trans blocked) nofun

/-- The thread goes on as long as nobody has to wake it. -/
theorem Halting.goesOn (halting : Halting system)
    (away : system.background ≠ .blocked ∧ system.background ≠ .returned ∧
      system.background ≠ .thrown) (response : Response) :
    ∃ next, system.step (.process_logs response) = some next := by
  obtain ⟨blocked, returned, thrown⟩ := away
  rw [step, if_neg thrown]
  simp only [process_logs]
  split
  case h_7 place =>
      cases queue : system.logger.m_log_queue with
      | nil => exact absurd queue (halting.taken place)
      | cons log_entry rest => exact ⟨_, rfl⟩
  case h_9 =>
      split_ifs
      · cases system.rotate response <;> exact ⟨_, rfl⟩
      · exact ⟨_, rfl⟩
  case h_10 place => exact absurd place blocked
  case h_11 place => exact absurd place returned
  case h_12 place => exact absurd place thrown
  all_goals first | exact ⟨_, rfl⟩ | (split_ifs <;> exact ⟨_, rfl⟩)

/-- A thread that has returned leaves nothing behind unless something is pushed later. -/
def Emptied (system : LogSystem) : Prop :=
  system.background = .returned → system.logger.m_log_queue = []

theorem Emptied.moves (emptied : Emptied system) (silent : action.pushes = 0)
    (move : Moves system action next) : Emptied next := by
  cases move with
  | ignores => exact emptied
  | enters | counts | stops | joins => exact emptied
  | pushes => exact absurd silent Nat.one_ne_zero
  | notifies | notifiesAll =>
      change Emptied system.wake
      unfold LogSystem.wake
      split_ifs
      · exact nofun
      · exact emptied
  | @turns response background turn =>
      intro returned
      obtain rfl : background = .returned := returned
      generalize system.background = place at turn
      cases turn with
      | returns queue => exact queue
  | pops | writes | rotates | throws | wakes => exact nofun

/-- In every interleaving behind a stop that the thread does not miss, it takes a bounded number of
steps, never waits in vain, and leaves the queue empty unless something is pushed behind it. -/
theorem shutdown_bounded (disk : List UInt8 → List UInt8) (filename file : List UInt8)
    (level : Level) (bytes : Int) {first rest : List LogAction} {before final : LogSystem}
    (reached : follow step (.started disk filename file level bytes) first = some before)
    (awake : before.background ≠ .block)
    (run : follow step before (.stop :: rest) = some final) :
    (rest.map LogAction.turns).sum ≤
        4 * before.logger.m_log_queue.length + 8 * (rest.map LogAction.pushes).sum + 6 ∧
    (final.background = .returned ∨ final.background = .thrown ∨
      final.background = .blocked ∧ final.stopping = .flagged ∨
        ∀ response, ∃ next, final.step (.process_logs response) = some next) ∧
    (final.background = .returned → (rest.map LogAction.pushes).sum = 0 →
      final.logger.m_log_queue = []) := by
  have sane : Sane before := by
    refine follow_invariant (fun system _ => Sane system) ?_
      (Sane.start disk filename file level bytes) reached
    exact fun system action _ next sane now => sane.moves (step_moves now)
  rw [follow_cons, Option.bind_eq_some_iff] at run
  obtain ⟨stopped, now, later⟩ := run
  have move := step_moves now
  cases move with
  | stops idle =>
      have away : ¬(before.background = .testQueue ∨ before.background = .returned) :=
        fun left => sane.halted (sane.left left) idle
      have start : Halting { before with logger.m_running := false, stopping := .flagged } :=
        ⟨rfl, awake, fun _ => rfl, sane.taken⟩
      have empty : Emptied { before with logger.m_running := false, stopping := .flagged } :=
        fun returned => absurd (Or.inr returned) away
      have halting : Halting final :=
        follow_invariant (fun system _ => Halting system)
          (fun system action _ next halting now => (halting.moves (step_moves now)).1) start later
      refine ⟨?_, ?_, fun returned silent => ?_⟩
      · have paid := follow_potential Halting remaining LogAction.turns
          (fun action => 8 * action.pushes)
          (fun system action next halting now => halting.moves (step_moves now)) start later
        have bound := stepsFrom_le before.logger.m_log_queue.length before.background
        rw [List.sum_map_mul_left] at paid
        change _ ≤ stepsFrom before.logger.m_log_queue.length before.background + _ at paid
        omega
      · by_cases blocked : final.background = .blocked
        · exact Or.inr (Or.inr (Or.inl ⟨blocked, halting.notified blocked⟩))
        · by_cases returned : final.background = .returned
          · exact Or.inl returned
          · by_cases thrown : final.background = .thrown
            · exact Or.inr (Or.inl thrown)
            · exact Or.inr (Or.inr (Or.inr (halting.goesOn ⟨blocked, returned, thrown⟩)))
      · have quiet : ∀ action ∈ rest, action.pushes = 0 := by
          intro action member
          exact List.sum_eq_zero_iff.mp silent _ (List.mem_map_of_mem member)
        have kept := follow_invariant
          (fun system (rest : List LogAction) =>
            Emptied system ∧ ∀ action ∈ rest, action.pushes = 0)
          (fun system action rest next ⟨emptied, quiet⟩ now =>
            ⟨emptied.moves (quiet action List.mem_cons_self) (step_moves now),
              fun other member => quiet other (List.mem_cons_of_mem _ member)⟩)
          ⟨empty, quiet⟩ later
        exact kept.1 returned

/-- The stop comes while the thread waits, and the notification wakes it. -/
theorem shutdown_bounded_asleep :
    let info : LogCall := ⟨.INFO, [], 0, [], ascii "late"⟩
    let go : LogAction := .process_logs ⟨[], true, true⟩
    let start : LogSystem := .started (fun _ => []) [] [] .DEBUG 0
    let first := [.enter 0 info, .count 0, go, go, go]
    let rest := [.notifyAll, go, .push 0, go, go, go, go, go, go, go]
    let before := (follow step start first).get (by decide)
    let final := (follow step before (.stop :: rest)).get (by decide +kernel)
    (rest.map LogAction.turns).sum ≤
        4 * before.logger.m_log_queue.length + 8 * (rest.map LogAction.pushes).sum + 6 ∧
    (final.background = .returned ∨ final.background = .thrown ∨
      final.background = .blocked ∧ final.stopping = .flagged ∨
        ∀ response, ∃ next, final.step (.process_logs response) = some next) ∧
    (final.background = .returned → (rest.map LogAction.pushes).sum = 0 →
      final.logger.m_log_queue = []) :=
  shutdown_bounded (fun _ => []) [] [] .DEBUG 0 (Option.some_get _).symm (by decide +kernel)
    (Option.some_get _).symm

end LogSystem

end FzServer.Utility
