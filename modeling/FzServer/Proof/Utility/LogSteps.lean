import FzServer.Construction.Utility.Logger

/-
This file lists what a single step of the logger can do.
-/

namespace FzServer.Utility

open Foundation

/-- The background thread goes from one place to another and changes nothing else. -/
inductive Turns (logger : Logger) : Background → Background → Prop where
  | runs (running : logger.m_running = true) : Turns logger .testRunning .evaluate
  | halts (running : logger.m_running = false) : Turns logger .testRunning .testQueue
  | returns (queue : logger.m_log_queue = []) : Turns logger .testQueue .returned
  | continues (queue : logger.m_log_queue ≠ []) : Turns logger .testQueue .evaluate
  | ready (predicate : logger.m_log_queue ≠ [] ∨ logger.m_running = false) :
      Turns logger .evaluate .drain
  | waits (queue : logger.m_log_queue = []) (running : logger.m_running = true) :
      Turns logger .evaluate .block
  | blocks : Turns logger .block .blocked
  | wakes : Turns logger .woken .evaluate
  | drained (queue : logger.m_log_queue = []) : Turns logger .drain .testRunning
  | takes (queue : logger.m_log_queue ≠ []) : Turns logger .drain .pop
  | fails (log_entry : List UInt8) (failed : logger.m_fout.failed = true) :
      Turns logger (.popped log_entry) .thrown
  | keeps (room : ¬(logger.m_max ≤ logger.m_len ∧ 0 < logger.m_max)) :
      Turns logger .written .drain

/-- These are all the steps of the logger and its threads. -/
inductive Moves (system : LogSystem) : LogAction → LogSystem → Prop where
  | ignores (thread : Nat) (call : LogCall)
      (below : call.level.number < system.logger.m_level.number) :
      Moves system (.enter thread call) system
  | enters (thread : Nat) (call : LogCall) (free : system.callers thread = none) :
      Moves system (.enter thread call) { system with
        callers := Function.update system.callers thread (some ⟨call, .entered⟩) }
  | counts (thread : Nat) (call : LogCall)
      (stands : system.callers thread = some ⟨call, .entered⟩)
      (free : system.logger.m_log_mutex = none) :
      Moves system (.count thread) { system with
        logger.m_log_mutex := some thread
        logger.m_len := (system.logger.m_len + call.size).bmod 0x100000000
        callers := Function.update system.callers thread (some ⟨call, .counted⟩) }
  | pushes (thread : Nat) (call : LogCall)
      (stands : system.callers thread = some ⟨call, .counted⟩) :
      Moves system (.push thread) { system with
        logger.m_log_queue := system.logger.m_log_queue ++ [call.log_entry]
        logger.m_log_mutex := none
        callers := Function.update system.callers thread (some ⟨call, .pushed⟩)
        pushed := system.pushed ++ [call.log_entry] }
  | notifies (thread : Nat) (call : LogCall)
      (stands : system.callers thread = some ⟨call, .pushed⟩) :
      Moves system (.notify thread)
        { system.wake with callers := Function.update system.callers thread none }
  | turns (response : Response) {background : Background}
      (turn : Turns system.logger system.background background) :
      Moves system (.process_logs response) { system with background := background }
  | pops (response : Response) {log_entry : List UInt8} {rest : List (List UInt8)}
      (place : system.background = .pop) (queue : system.logger.m_log_queue = log_entry :: rest) :
      Moves system (.process_logs response)
        { system with background := .popped log_entry, logger.m_log_queue := rest }
  | writes (response : Response) {log_entry : List UInt8}
      (place : system.background = .popped log_entry) (sound : system.logger.m_fout.failed = false) :
      Moves system (.process_logs response)
        { system.write log_entry response.accepts with background := .written }
  | rotates (response : Response) {rotated : LogSystem} (place : system.background = .written)
      (full : system.logger.m_max ≤ system.logger.m_len ∧ 0 < system.logger.m_max)
      (opened : system.rotate response = some rotated) :
      Moves system (.process_logs response) { rotated with background := .drain }
  | throws (response : Response) (place : system.background = .written)
      (full : system.logger.m_max ≤ system.logger.m_len ∧ 0 < system.logger.m_max)
      (failed : system.rotate response = none) :
      Moves system (.process_logs response) { system with background := .thrown }
  | wakes (place : system.background = .blocked) :
      Moves system .spurious { system with background := .woken }
  | stops (first : system.stopping = .idle) :
      Moves system .stop { system with logger.m_running := false, stopping := .flagged }
  | notifiesAll (flagged : system.stopping = .flagged) :
      Moves system .notifyAll { system.wake with stopping := .notified }
  | joins (notified : system.stopping = .notified) (place : system.background = .returned) :
      Moves system .join { system with stopping := .joined }

variable {system next : LogSystem}

theorem process_logs_moves {response : Response} (now : system.process_logs response = some next) :
    Moves system (.process_logs response) next := by
  have turns {background : Background} (turn : Turns system.logger system.background background) :
      Moves system (.process_logs response) { system with background := background } :=
    .turns response turn
  unfold LogSystem.process_logs at now
  split at now
  case h_1 place =>
      split_ifs at now with running <;> cases now <;> apply turns <;> rw [place]
      · exact .runs running
      · exact .halts (Bool.eq_false_of_not_eq_true running)
  case h_2 place =>
      split_ifs at now with queue <;> cases now <;> apply turns <;> rw [place]
      · exact .returns queue
      · exact .continues queue
  case h_3 place =>
      split_ifs at now with predicate <;> cases now <;> apply turns <;> rw [place]
      · exact .ready predicate
      · obtain ⟨queue, running⟩ := not_or.mp predicate
        exact .waits (not_not.mp queue) (Bool.eq_true_of_not_eq_false running)
  case h_4 place =>
      cases now
      apply turns
      rw [place]
      exact .blocks
  case h_5 place =>
      cases now
      apply turns
      rw [place]
      exact .wakes
  case h_6 place =>
      split_ifs at now with queue <;> cases now <;> apply turns <;> rw [place]
      · exact .drained queue
      · exact .takes queue
  case h_7 place =>
      split at now
      next => nomatch now
      next log_entry rest queue =>
        cases now
        exact .pops response place queue
  case h_8 log_entry place =>
      split_ifs at now with failed <;> cases now
      · apply turns
        rw [place]
        exact .fails log_entry failed
      · exact .writes response place (Bool.eq_false_of_not_eq_true failed)
  case h_9 place =>
      split_ifs at now with full
      · split at now
        next failed =>
          cases now
          exact .throws response place full failed
        next rotated opened =>
          cases now
          exact .rotates response place full opened
      · cases now
        apply turns
        rw [place]
        exact .keeps full
  case h_10 | h_11 | h_12 => nomatch now

theorem step_moves {action : LogAction} (now : system.step action = some next) :
    Moves system action next := by
  unfold LogSystem.step at now
  split_ifs at now
  cases action with
  | enter thread call =>
      dsimp only [LogSystem.enter] at now
      split at now
      next => nomatch now
      next free =>
        split_ifs at now with below <;> cases now
        · exact .ignores thread call below
        · exact .enters thread call free
  | count thread =>
      dsimp only [LogSystem.count] at now
      split at now
      next call stands =>
        split_ifs at now with free
        cases now
        exact .counts thread call stands free
      next => nomatch now
  | push thread =>
      dsimp only [LogSystem.push] at now
      split at now
      next call stands =>
        cases now
        exact .pushes thread call stands
      next => nomatch now
  | notify thread =>
      dsimp only [LogSystem.notify] at now
      split at now
      next call stands =>
        cases now
        exact .notifies thread call stands
      next => nomatch now
  | process_logs response => exact process_logs_moves now
  | spurious =>
      dsimp only [LogSystem.spurious] at now
      split_ifs at now with place
      cases now
      exact .wakes place
  | stop =>
      dsimp only [LogSystem.stop] at now
      split_ifs at now with first
      cases now
      exact .stops first
  | notifyAll =>
      dsimp only [LogSystem.notifyAll] at now
      split_ifs at now with flagged
      cases now
      exact .notifiesAll flagged
  | join =>
      dsimp only [LogSystem.join] at now
      split_ifs at now with both
      cases now
      exact .joins both.1 both.2

section OpenFile

variable {name : List UInt8} (opened : system.logger.m_fout.file = some name)

include opened

/-- The open file is the last one. -/
theorem files_opened : system.files = system.closed ++ [⟨name, system.current⟩] := by
  rw [LogSystem.files, opened]

theorem write_opened (log_entry : List UInt8) :
    system.write log_entry true =
      { system with
        disk := Function.update system.disk name (system.disk name ++ log_entry)
        current := system.current ++ [log_entry] } := by
  unfold LogSystem.write
  rw [opened]

theorem write_refused (log_entry : List UInt8) :
    system.write log_entry false = { system with logger.m_fout.failed := true } := by
  unfold LogSystem.write
  rw [opened]

theorem close_opened :
    system.close =
      { system with
        logger.m_fout.file := none
        closed := system.closed ++ [⟨name, system.current⟩]
        current := [] } := by
  unfold LogSystem.close
  rw [opened]

end OpenFile

end FzServer.Utility
