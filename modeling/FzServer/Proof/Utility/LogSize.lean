import FzServer.Proof.Utility.LogOrder

/-
This file compares the lengths of the log files with their limit.
-/

namespace FzServer.Utility

open Foundation

def lastEntry (files : List LogFile) (name : List UInt8) : List UInt8 :=
  (entriesOf files name).getLast?.getD []

/-- An opening without entries changes no last entry. -/
theorem lastEntry_opened (files : List LogFile) (name other : List UInt8) :
    lastEntry (files ++ [⟨name, []⟩]) other = lastEntry files other := by
  rw [lastEntry, entriesOf_append, entriesOf_singleton, ite_self, List.append_nil]
  rfl

/-- A written entry is the last of its file and of no other. -/
theorem lastEntry_written (closed : List LogFile) (name other : List UInt8)
    (current : List (List UInt8)) (log_entry : List UInt8) :
    lastEntry (closed ++ [⟨name, current ++ [log_entry]⟩]) other =
      if name = other then log_entry else lastEntry (closed ++ [⟨name, current⟩]) other := by
  rw [lastEntry, lastEntry, entriesOf_append, entriesOf_append, entriesOf_singleton,
    entriesOf_singleton]
  split_ifs
  · rw [← List.append_assoc, List.getLast?_concat]
    rfl
  · rfl

namespace LogSystem

/-- When the thread compares, the counter has noticed that the file is full, and the file of
the rotation has room. -/
def CountsFile (system : LogSystem) : LogAction → Prop
  | .process_logs response =>
      system.background = .written → ∀ name ∈ system.logger.m_fout.file,
        (system.logger.m_max ≤ (system.disk name).length →
          system.logger.m_max ≤ system.logger.m_len) ∧
        (system.logger.m_max ≤ system.logger.m_len → response.opens = true →
          ((system.disk (rotatedName system.logger.m_filename response.timestamp)).length : Int) <
            system.logger.m_max)
  | _ => True

instance (system : LogSystem) : (action : LogAction) → Decidable (system.CountsFile action)
  | .process_logs _ => inferInstanceAs (Decidable (_ = _ → ∀ name ∈ _, _ ∧ _))
  | .enter _ _ | .count _ | .push _ | .notify _ | .spurious | .stop | .notifyAll | .join =>
      isTrue trivial

/-- No file is longer than the limit and its last entry, and a full file gets no entry. -/
structure Bounded (bytes : Int) (system : LogSystem) : Prop where
  limit : system.logger.m_max = bytes
  opened : ∃ name, system.logger.m_fout.file = some name
  lengths : ∀ name, ((system.disk name).length : Int) <
    bytes + (lastEntry system.files name).length
  room : system.background ≠ .written → system.background ≠ .thrown →
    ∀ name ∈ system.logger.m_fout.file, ((system.disk name).length : Int) < bytes

variable {bytes : Int} {system next : LogSystem}

theorem Bounded.start (positive : 0 < bytes) (filename file : List UInt8) (level : Level) :
    Bounded bytes (.started (fun _ => []) filename file level bytes) where
  limit := rfl
  opened := ⟨file, rfl⟩
  lengths name := by
    have nonneg := Int.natCast_nonneg
      (lastEntry (started (fun _ => []) filename file level bytes).files name).length
    change (0 : Int) < _
    omega
  room _ _ _ _ := positive

/-- A thread that only moves on keeps the bounds while the file has room. -/
theorem Bounded.goes (bounded : Bounded bytes system) {background : Background}
    (room : background ≠ .written → background ≠ .thrown →
      ∀ name ∈ system.logger.m_fout.file, ((system.disk name).length : Int) < bytes) :
    Bounded bytes { system with background := background } :=
  ⟨bounded.limit, bounded.opened, bounded.lengths, room⟩

theorem Bounded.wake (bounded : Bounded bytes system) : Bounded bytes system.wake := by
  unfold LogSystem.wake
  split_ifs with blocked
  · apply bounded.goes
    intro _ _
    exact bounded.room (by rw [blocked]; exact nofun) (by rw [blocked]; exact nofun)
  · exact bounded

/-- The entry goes to a file below the limit. -/
theorem Bounded.write (bounded : Bounded bytes system) {log_entry : List UInt8}
    (popped : system.background = .popped log_entry) (accepts : Bool) :
    Bounded bytes { system.write log_entry accepts with background := .written } := by
  obtain ⟨limit, ⟨name, opened⟩, lengths, room⟩ := bounded
  have below := room (by rw [popped]; exact nofun) (by rw [popped]; exact nofun) name opened
  cases accepts with
  | false =>
      rw [write_refused opened]
      exact ⟨limit, ⟨name, opened⟩, lengths, fun away => absurd rfl away⟩
  | true =>
      rw [files_opened opened] at lengths
      rw [write_opened opened]
      refine ⟨limit, ⟨name, opened⟩, fun other => ?_, fun away => absurd rfl away⟩
      have behind : LogSystem.files { system with
          disk := Function.update system.disk name (system.disk name ++ log_entry)
          current := system.current ++ [log_entry]
          background := .written } =
            system.closed ++ [⟨name, system.current ++ [log_entry]⟩] := files_opened opened
      rw [behind, lastEntry_written]
      by_cases same : name = other
      · subst same
        rw [if_pos rfl]
        dsimp only
        rw [Function.update_self, List.length_append]
        omega
      · rw [if_neg same]
        dsimp only
        rw [Function.update_of_ne (Ne.symm same)]
        exact lengths other

/-- The rotation opens a file with room. -/
theorem Bounded.rotate (bounded : Bounded bytes system) {response : Response}
    (room : response.opens = true →
      ((system.disk (rotatedName system.logger.m_filename response.timestamp)).length : Int) <
        bytes)
    (rotation : system.rotate response = some next) :
    Bounded bytes { next with background := .drain } := by
  obtain ⟨limit, ⟨name, opened⟩, lengths, _⟩ := bounded
  have before := files_opened opened
  rw [LogSystem.rotate, close_opened opened, openFile] at rotation
  split_ifs at rotation with opens
  cases rotation
  refine ⟨limit, ⟨_, rfl⟩, fun other => ?_, fun _ _ other stands => ?_⟩
  · have same := lastEntry_opened system.files
      (rotatedName system.logger.m_filename response.timestamp) other
    have length := lengths other
    rw [← same, before] at length
    exact length
  · cases stands
    exact room opens.2

theorem Bounded.turns (positive : 0 < bytes) (bounded : Bounded bytes system)
    {response : Response} (counts : system.CountsFile (.process_logs response))
    {background : Background} (turn : Turns system.logger system.background background) :
    Bounded bytes { system with background := background } := by
  apply bounded.goes
  intro _ _ name stands
  by_cases written : system.background = .written
  · have limit := bounded.limit
    have noticed := (counts written name stands).1
    rw [written] at turn
    cases turn with
    | keeps room =>
        rw [limit] at room noticed
        have short : ¬bytes ≤ system.logger.m_len := fun full => room ⟨full, positive⟩
        exact Int.not_le.mp (mt noticed short)
  · refine bounded.room written ?_ name stands
    intro thrown
    rw [thrown] at turn
    nomatch turn

theorem Bounded.moves (positive : 0 < bytes) (bounded : Bounded bytes system) {action : LogAction}
    (counts : system.CountsFile action) (move : Moves system action next) :
    Bounded bytes next := by
  have woken := bounded.wake
  cases move with
  | ignores => exact bounded
  | enters | counts | pushes | stops | joins =>
      exact ⟨bounded.limit, bounded.opened, bounded.lengths, bounded.room⟩
  | notifies | notifiesAll => exact ⟨woken.limit, woken.opened, woken.lengths, woken.room⟩
  | turns response turn => exact bounded.turns positive counts turn
  | pops response place =>
      refine ⟨bounded.limit, bounded.opened, bounded.lengths, fun _ _ => bounded.room ?_ ?_⟩
      · rw [place]
        exact nofun
      · rw [place]
        exact nofun
  | writes response place => exact bounded.write place response.accepts
  | rotates response place full rotation =>
      obtain ⟨name, opened⟩ := bounded.opened
      have room := (counts place name opened).2 full.1
      rw [bounded.limit] at room
      exact bounded.rotate room rotation
  | throws => exact bounded.goes fun _ away => absurd rfl away
  | wakes place =>
      apply bounded.goes
      intro _ _
      exact bounded.room (by rw [place]; exact nofun) (by rw [place]; exact nofun)

/-- While the counter notices every full file, each file stays below the limit and its last entry,
and a file that reached the limit is never written again. -/
theorem logFiles_bounded (positive : 0 < bytes) (filename file : List UInt8) (level : Level)
    {schedule : List LogAction} {final : LogSystem}
    (counts : Meets step CountsFile (.started (fun _ => []) filename file level bytes) schedule)
    (run : follow step (.started (fun _ => []) filename file level bytes) schedule = some final) :
    (∀ name, ((final.disk name).length : Int) < bytes + (lastEntry final.files name).length) ∧
      ∀ log_entry, final.background = .popped log_entry →
        ∀ name ∈ final.logger.m_fout.file, ((final.disk name).length : Int) < bytes := by
  have bounded := follow_invariant_of_meets (Bounded bytes)
    (fun system action next bounded counts now => bounded.moves positive counts (step_moves now))
    (Bounded.start positive filename file level) counts run
  refine ⟨bounded.lengths, fun log_entry popped => bounded.room ?_ ?_⟩
  · rw [popped]
    exact nofun
  · rw [popped]
    exact nofun

/-- Each of two calls is written before the next one begins. -/
def twoCalls : List LogAction :=
  let call : LogCall :=
    ⟨.INFO, ascii "a.cpp", 7, ascii "2024-01-01 00:00:00", ascii "a message of thirty characters"⟩
  let written (time : List UInt8) : List LogAction :=
    [.enter 0 call, .count 0, .push 0, .notify 0] ++
      List.replicate 7 (.process_logs ⟨time, true, true⟩)
  written (ascii "2024-01-01 00_00_01") ++ written (ascii "2024-01-01 00_00_02")

/-- The header of each call alone reaches the limit. -/
theorem logFiles_bounded_twoCalls :
    let final := (follow step (.started (fun _ => []) (ascii "test.log") (ascii "test.log") .DEBUG
      30) twoCalls).get (by decide +kernel)
    (∀ name, ((final.disk name).length : Int) < 30 + (lastEntry final.files name).length) ∧
      ∀ log_entry, final.background = .popped log_entry →
        ∀ name ∈ final.logger.m_fout.file, ((final.disk name).length : Int) < 30 :=
  logFiles_bounded (by decide) (ascii "test.log") (ascii "test.log") .DEBUG (by decide +kernel)
    (Option.some_get _).symm

/-- The file is full behind the first call, but the counter has seen its header alone. -/
theorem logFiles_exceed :
    let final := (follow step (.started (fun _ => []) (ascii "test.log") (ascii "test.log") .DEBUG
      50) twoCalls).get (by decide +kernel)
    ¬((final.disk (ascii "test.log")).length : Int) <
      50 + (lastEntry final.files (ascii "test.log")).length := by
  decide +kernel

end LogSystem

end FzServer.Utility
