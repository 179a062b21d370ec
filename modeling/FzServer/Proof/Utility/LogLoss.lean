import FzServer.Proof.Utility.LogOrder

/-
This file accounts for the log entries when files cannot be opened or written.
-/

namespace FzServer.Utility

open Foundation

/-- The step hands this entry to a sound stream, which refuses it. -/
def refusal (system : LogSystem) : LogAction → List (List UInt8)
  | .process_logs response =>
      match system.background with
      | .popped log_entry =>
          if system.logger.m_fout.failed = false ∧ response.accepts = false then [log_entry] else []
      | _ => []
  | _ => []

/-- An opening of a file is given with the entries that were lost at its end. -/
abbrev Opening := LogFile × List (List UInt8)

/-- Both the entries of the opening and the lost ones were pushed. -/
def Opening.entries (opening : Opening) : List (List UInt8) := opening.1.entries ++ opening.2

section Accounted

variable {disk : List UInt8 → List UInt8} {system next : LogSystem}
  {refused : List (List UInt8)}

/-- Every entry that was pushed is in a file, was lost behind its last entry, is in the hand of the
thread or is in the queue. -/
structure Accounts (disk : List UInt8 → List UInt8) (system : LogSystem)
    (refused : List (List UInt8)) (older : List Opening) (name : List UInt8)
    (missing hand : List (List UInt8)) : Prop where
  closed : older.map Prod.fst = system.closed
  opened : system.logger.m_fout.file = some name
  spare : ∀ opening ∈ older, opening.2.length ≤ 1
  single : missing.length ≤ 1
  sound : system.logger.m_fout.failed = false → missing = []
  refused : refused = older.flatMap Prod.snd ++ missing
  order : system.pushed = older.flatMap Opening.entries ++ (system.current ++ missing) ++
    (hand ++ system.logger.m_log_queue)
  held : system.background ≠ .thrown → hand = inHand system.background
  small : hand.length ≤ 1
  stored : ∀ other, system.disk other =
    disk other ++ writtenTo (system.closed ++ [⟨name, system.current⟩]) other

def Accounted (disk : List UInt8 → List UInt8) (system : LogSystem)
    (refused : List (List UInt8)) : Prop :=
  ∃ older name missing hand, Accounts disk system refused older name missing hand

theorem Accounted.start (filename file : List UInt8) (level : Level) (bytes : Int) :
    Accounted disk (.started disk filename file level bytes) [] :=
  ⟨[], file, [], [], {
    closed := rfl
    opened := rfl
    spare := fun _ impossible => nomatch impossible
    single := Nat.zero_le _
    sound := fun _ => rfl
    refused := rfl
    order := rfl
    held := fun _ => rfl
    small := Nat.zero_le _
    stored := (Recorded.start filename file level bytes).stored }⟩

section Steps

variable {older : List Opening} {name : List UInt8} {missing hand : List (List UInt8)}
  (accounts : Accounts disk system refused older name missing hand)

include accounts

/-- Only the entry in the hand of the thread counts. -/
theorem Accounts.goes {background : Background}
    (held : background ≠ .thrown → hand = inHand background) :
    Accounts disk { system with background := background } refused older name missing hand :=
  { accounts with held := held }

theorem Accounts.wake : Accounts disk system.wake refused older name missing hand := by
  unfold LogSystem.wake
  split_ifs with blocked
  · apply accounts.goes
    intro _
    rw [accounts.held (by rw [blocked]; exact nofun), blocked]
    rfl
  · exact accounts

/-- The hand keeps what it holds from one place to the next, and a crash loses it. -/
theorem Accounts.turns {background : Background}
    (turn : Turns system.logger system.background background) :
    Accounts disk { system with background := background } refused older name missing hand := by
  apply accounts.goes
  intro stays
  have held := accounts.held
  generalize system.background = place at turn held
  cases turn with
  | fails => exact absurd rfl stays
  | runs | halts | returns | continues | ready | waits | blocks | wakes | drained | takes | keeps =>
      exact held nofun

theorem Accounts.pop (popping : system.background = .pop) {log_entry : List UInt8}
    {rest : List (List UInt8)} (queue : system.logger.m_log_queue = log_entry :: rest) :
    Accounts disk { system with background := .popped log_entry, logger.m_log_queue := rest }
      refused older name missing [log_entry] where
  closed := accounts.closed
  opened := accounts.opened
  spare := accounts.spare
  single := accounts.single
  sound := accounts.sound
  refused := accounts.refused
  order := by
    have empty : hand = [] := by
      rw [accounts.held (by rw [popping]; exact nofun), popping]
      rfl
    have order := accounts.order
    rw [empty, queue] at order
    exact order
  held _ := rfl
  small := Nat.le_refl _
  stored := accounts.stored

/-- A stream that accepts the entry gets it behind all others. -/
theorem Accounts.write {log_entry : List UInt8} (popped : system.background = .popped log_entry)
    (sound : system.logger.m_fout.failed = false) :
    Accounts disk { system.write log_entry true with background := .written } refused older name
      [] [] := by
  have nothing := accounts.sound sound
  have holds : hand = [log_entry] := by
    rw [accounts.held (by rw [popped]; exact nofun), popped]
    rfl
  have order := accounts.order
  have stored := accounts.stored
  have refusals := accounts.refused
  rw [nothing, holds] at order
  rw [nothing] at refusals
  rw [write_opened accounts.opened]
  refine ⟨accounts.closed, accounts.opened, accounts.spare, Nat.zero_le _, fun _ => rfl, refusals,
    ?_, fun _ => rfl, Nat.zero_le _, fun other => ?_⟩
  · rw [order]
    simp only [List.append_nil, List.append_assoc, List.nil_append]
  · change Function.update system.disk name (system.disk name ++ log_entry) other =
      disk other ++ writtenTo (system.closed ++ [⟨name, system.current ++ [log_entry]⟩]) other
    rw [writtenTo_append, writtenTo_singleton]
    by_cases same : name = other
    · subst same
      rw [Function.update_self, stored, writtenTo_append, writtenTo_singleton]
      simp
    · rw [Function.update_of_ne (Ne.symm same), stored, writtenTo_append, writtenTo_singleton,
        if_neg same, if_neg same]

/-- A stream that refuses the entry loses it and takes no other. -/
theorem Accounts.refuse {log_entry : List UInt8} (popped : system.background = .popped log_entry)
    (sound : system.logger.m_fout.failed = false) :
    Accounts disk { system.write log_entry false with background := .written }
      (refused ++ [log_entry]) older name [log_entry] [] := by
  have nothing := accounts.sound sound
  have holds : hand = [log_entry] := by
    rw [accounts.held (by rw [popped]; exact nofun), popped]
    rfl
  have order := accounts.order
  have refusals := accounts.refused
  rw [nothing, holds] at order
  rw [nothing, List.append_nil] at refusals
  rw [write_refused accounts.opened]
  refine ⟨accounts.closed, accounts.opened, accounts.spare, Nat.le_refl _, nofun,
    congrArg (· ++ [log_entry]) refusals, ?_, fun _ => rfl, Nat.zero_le _, accounts.stored⟩
  rw [order]
  simp only [List.append_nil, List.append_assoc, List.nil_append]

/-- A rotation opens a sound stream. -/
theorem Accounts.rotate {response : Response} {rotated : LogSystem}
    (written : system.background = .written) (done : system.rotate response = some rotated) :
    ∃ fresh, Accounts disk { rotated with background := .drain } refused
      (older ++ [(⟨name, system.current⟩, missing)]) fresh [] [] := by
  have empty : hand = [] := by
    rw [accounts.held (by rw [written]; exact nofun), written]
    rfl
  have order := accounts.order
  have stored := accounts.stored
  rw [empty] at order
  rw [LogSystem.rotate, close_opened accounts.opened, LogSystem.openFile] at done
  split_ifs at done
  obtain rfl := Option.some.inj done
  let fresh := LogSystem.rotatedName system.logger.m_filename response.timestamp
  refine ⟨fresh, ?_, rfl, ?_, Nat.zero_le _, fun _ => rfl, ?_, ?_, fun _ => rfl, Nat.zero_le _,
    fun other => ?_⟩
  · rw [List.map_append, accounts.closed]
    rfl
  · intro opening member
    rcases List.mem_append.mp member with before | last
    · exact accounts.spare opening before
    · rw [List.mem_singleton.mp last]
      exact accounts.single
  · rw [List.flatMap_append, List.flatMap_singleton, List.append_nil]
    exact accounts.refused
  · change system.pushed = _
    rw [order, List.flatMap_append, List.flatMap_singleton]
    change _ = older.flatMap Opening.entries ++ (system.current ++ missing) ++ ([] ++ []) ++
      ([] ++ system.logger.m_log_queue)
    rw [List.append_nil, List.append_nil]
  · change system.disk other =
      disk other ++ writtenTo (system.closed ++ [⟨name, system.current⟩] ++ [⟨fresh, []⟩]) other
    rw [stored, writtenTo_append _ [⟨fresh, []⟩], writtenTo_singleton fresh, List.flatten_nil,
      ite_self, List.append_nil]

end Steps

theorem refusal_silent {response : Response}
    (away : ∀ log_entry, system.background = .popped log_entry →
      system.logger.m_fout.failed = true) :
    refusal system (.process_logs response) = [] := by
  rw [refusal]
  cases place : system.background with
  | popped log_entry => simp [away log_entry place]
  | _ => rfl

/-- Each step keeps the account. -/
theorem Accounted.moves (accounted : Accounted disk system refused) {action : LogAction}
    (move : Moves system action next) : Accounted disk next (refused ++ refusal system action) := by
  obtain ⟨older, name, missing, hand, accounts⟩ := accounted
  have woken := accounts.wake
  have quiet (nothing : refusal system action = []) (kept : Accounted disk next refused) :
      Accounted disk next (refused ++ refusal system action) := by
    rwa [nothing, List.append_nil]
  have silent {response : Response} {place : Background} (there : system.background = place)
      (other : ∀ log_entry, place ≠ .popped log_entry) :
      refusal system (.process_logs response) = [] :=
    refusal_silent fun log_entry popped => absurd (there.symm.trans popped) (other log_entry)
  cases move with
  | ignores => exact quiet rfl ⟨older, name, missing, hand, accounts⟩
  | enters | counts | stops | joins =>
      exact quiet rfl ⟨older, name, missing, hand, { accounts with }⟩
  | notifies | notifiesAll =>
      exact quiet rfl ⟨older, name, missing, hand, { woken with }⟩
  | pushes thread call =>
      refine quiet rfl ⟨older, name, missing, hand, { accounts with order := ?_ }⟩
      change system.pushed ++ [call.log_entry] = older.flatMap Opening.entries ++
        (system.current ++ missing) ++ (hand ++ (system.logger.m_log_queue ++ [call.log_entry]))
      rw [accounts.order]
      simp only [List.append_assoc]
  | turns response turn =>
      refine quiet ?_ ⟨older, name, missing, hand, accounts.turns turn⟩
      refine refusal_silent fun log_entry popped => ?_
      rw [popped] at turn
      cases turn with
      | fails _ failed => exact failed
  | pops response place queue =>
      exact quiet (silent place nofun) ⟨older, name, missing, _, accounts.pop place queue⟩
  | @writes response log_entry place sound =>
      cases accepts : response.accepts with
      | true =>
          have taken : refusal system (.process_logs response) = [] := by
            simp [refusal, place, accepts]
          rw [taken, List.append_nil]
          exact ⟨older, name, _, _, accounts.write place sound⟩
      | false =>
          have lost : refusal system (.process_logs response) = [log_entry] := by
            simp [refusal, place, sound, accepts]
          rw [lost]
          exact ⟨older, name, _, _, accounts.refuse place sound⟩
  | rotates response place full done =>
      obtain ⟨fresh, rotated⟩ := accounts.rotate place done
      exact quiet (silent place nofun) ⟨_, fresh, _, _, rotated⟩
  | throws response place =>
      refine quiet (silent place nofun) ⟨older, name, missing, hand, accounts.goes ?_⟩
      exact fun stays => absurd rfl stays
  | wakes place =>
      refine quiet rfl ⟨older, name, missing, hand, accounts.goes fun _ => ?_⟩
      rw [accounts.held (by rw [place]; exact nofun), place]
      rfl

end Accounted

/-- The log files account for every entry that was pushed: of each opening at most the last one is
lost, and a crash leaves at most one more outside of the queue. -/
structure Settled (disk : List UInt8 → List UInt8) (system : LogSystem)
    (refused : List (List UInt8)) (openings : List Opening) (hand : List (List UInt8)) : Prop where
  files : openings.map Prod.fst = system.files
  spare : ∀ opening ∈ openings, opening.2.length ≤ 1
  refused : openings.flatMap Prod.snd = refused
  order : system.pushed = openings.flatMap Opening.entries ++ (hand ++ system.logger.m_log_queue)
  held : system.background ≠ .thrown → hand = inHand system.background
  small : hand.length ≤ 1
  stored : ∀ name, system.disk name = disk name ++ writtenTo system.files name

/-- In every run the entries are written once and in the order of the pushes, and an entry is lost
only where a write of it is refused. -/
theorem log_accounts (disk : List UInt8 → List UInt8) (filename file : List UInt8) (level : Level)
    (bytes : Int) {schedule : List LogAction} {final : LogSystem}
    (run : follow LogSystem.step (.started disk filename file level bytes) schedule = some final) :
    ∃ openings hand, Settled disk final
      (observe LogSystem.step refusal (.started disk filename file level bytes) schedule)
      openings hand := by
  obtain ⟨older, name, missing, hand, accounts⟩ := follow_observed (Accounted disk)
    (fun system refused action next accounted now => accounted.moves (step_moves now))
    (Accounted.start filename file level bytes) run
  have files := files_opened accounts.opened
  refine ⟨older ++ [(⟨name, final.current⟩, missing)], hand, ?_, ?_, ?_, ?_, accounts.held,
    accounts.small, ?_⟩
  · rw [List.map_append, accounts.closed, files]
    rfl
  · intro opening member
    rcases List.mem_append.mp member with before | last
    · exact accounts.spare opening before
    · rw [List.mem_singleton.mp last]
      exact accounts.single
  · rw [List.flatMap_append, List.flatMap_singleton]
    exact accounts.refused.symm
  · rw [accounts.order, List.flatMap_append, List.flatMap_singleton]
    rfl
  · rw [files]
    exact accounts.stored

/-- The disk refuses the first entry, and the rotation behind it opens a sound file. -/
def refusedOnce : List LogAction :=
  let info : LogCall := ⟨.INFO, ascii "a.cpp", 7, ascii "2024-01-01 00:00:00", ascii "first"⟩
  let warn : LogCall := ⟨.WARN, ascii "b.cpp", 8, ascii "2024-01-01 00:00:01", ascii "second"⟩
  let go : LogAction := .process_logs ⟨ascii "2024-01-01 00_00_02", true, true⟩
  let refuse : LogAction := .process_logs ⟨[], true, false⟩
  [.enter 0 info, .count 0, .push 0, .notify 0, go, go, go, go, refuse, go, go,
    .enter 1 warn, .count 1, .push 1, .notify 1, go, go, go, go, go]

theorem log_accounts_refusedOnce :
    let start : LogSystem := .started (fun _ => []) (ascii "test.log") (ascii "test.log") .DEBUG 10
    let final := (follow LogSystem.step start refusedOnce).get (by decide +kernel)
    final.files.length = 2 ∧ final.disk (ascii "test.log") = [] ∧ ∃ openings hand,
      Settled (fun _ => []) final (observe LogSystem.step refusal start refusedOnce) openings
        hand :=
  ⟨by decide +kernel, by decide +kernel,
    log_accounts (fun _ => []) (ascii "test.log") (ascii "test.log") .DEBUG 10
      (Option.some_get _).symm⟩

end FzServer.Utility
