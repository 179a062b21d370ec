import FzServer.Proof.Utility.LogSteps

/-
This file compares the log files with the log calls.
-/

namespace FzServer.Utility

open Foundation

/-- The file of the logger is open in this system and nothing has been logged yet. -/
def LogSystem.started (disk : List UInt8 → List UInt8) (filename file : List UInt8)
    (level : Level) (bytes : Int) : LogSystem where
  logger := ⟨filename, ⟨some file, false⟩, level, bytes, intOf (disk file).length, [], none, true⟩
  disk := disk
  background := .testRunning
  callers := fun _ => none
  stopping := .idle
  pushed := []
  closed := []
  current := []

theorem openFile_constructed (disk : List UInt8 → List UInt8) (filename file : List UInt8)
    (level : Level) (bytes : Int) :
    ((((LogSystem.constructed disk).setFilename filename).max bytes).level level).openFile file
      true = some (.started disk filename file level bytes) := rfl

/-- These entries were written through all the openings of the file. -/
def entriesOf (files : List LogFile) (name : List UInt8) : List (List UInt8) :=
  (files.filter fun file => file.name = name).flatMap LogFile.entries

theorem entriesOf_append (first second : List LogFile) (name : List UInt8) :
    entriesOf (first ++ second) name = entriesOf first name ++ entriesOf second name := by
  rw [entriesOf, List.filter_append, List.flatMap_append]
  rfl

theorem entriesOf_singleton (name other : List UInt8) (entries : List (List UInt8)) :
    entriesOf [⟨name, entries⟩] other = if name = other then entries else [] := by
  by_cases same : name = other <;> simp [entriesOf, same]

/-- This text was written through all the openings of the file. -/
def writtenTo (files : List LogFile) (name : List UInt8) : List UInt8 :=
  ((files.filter fun file => file.name = name).flatMap LogFile.entries).flatten

theorem writtenTo_append (first second : List LogFile) (name : List UInt8) :
    writtenTo (first ++ second) name = writtenTo first name ++ writtenTo second name := by
  change (entriesOf (first ++ second) name).flatten = _
  rw [entriesOf_append, List.flatten_append]
  rfl

theorem writtenTo_singleton (name other : List UInt8) (entries : List (List UInt8)) :
    writtenTo [⟨name, entries⟩] other = if name = other then entries.flatten else [] := by
  change (entriesOf [⟨name, entries⟩] other).flatten = _
  rw [entriesOf_singleton]
  split_ifs <;> rfl

/-- The background thread holds this entry between its two queues. -/
def inHand : Background → List (List UInt8)
  | .popped log_entry => [log_entry]
  | _ => []

namespace LogAction

/-- The file can be opened and written in this step. -/
def succeeds : LogAction → Bool
  | .process_logs response => response.opens && response.accepts
  | _ => true

def isLog : LogAction → Bool
  | .enter _ _ | .count _ | .push _ | .notify _ => true
  | _ => false

end LogAction

/-- The logger is stopped behind the last log call. -/
def StopsLast (schedule : List LogAction) : Prop :=
  schedule.Pairwise fun action later => action = .stop → later.isLog = false

instance (schedule : List LogAction) : Decidable (StopsLast schedule) :=
  inferInstanceAs (Decidable (schedule.Pairwise _))

section Recorded

variable {disk : List UInt8 → List UInt8} {system next : LogSystem}

/-- Every entry that was pushed is in a file, in the hand of the thread or in the queue. -/
structure Recorded (disk : List UInt8 → List UInt8) (system : LogSystem) : Prop where
  order : system.pushed = system.files.flatMap LogFile.entries ++
    (inHand system.background ++ system.logger.m_log_queue)
  opened : ∃ name, system.logger.m_fout = ⟨some name, false⟩
  stored : ∀ name, system.disk name = disk name ++ writtenTo system.files name

theorem Recorded.start (filename file : List UInt8) (level : Level) (bytes : Int) :
    Recorded disk (.started disk filename file level bytes) where
  order := rfl
  opened := ⟨file, rfl⟩
  stored name := by
    change disk name = disk name ++ writtenTo [⟨file, []⟩] name
    rw [writtenTo_singleton, List.flatten_nil, ite_self, List.append_nil]

/-- Only the entry in the hand of the thread counts. -/
theorem Recorded.goes (recorded : Recorded disk system) {background : Background}
    (same : inHand background = inHand system.background) :
    Recorded disk { system with background := background } where
  order := by
    rw [same]
    exact recorded.order
  opened := recorded.opened
  stored := recorded.stored

theorem Recorded.wake (recorded : Recorded disk system) : Recorded disk system.wake := by
  unfold LogSystem.wake
  split_ifs with blocked
  · apply recorded.goes
    rw [blocked]
    rfl
  · exact recorded

theorem Recorded.of_file (name : List UInt8)
    (opened : system.logger.m_fout = ⟨some name, false⟩)
    (order : system.pushed = system.closed.flatMap LogFile.entries ++ system.current ++
      (inHand system.background ++ system.logger.m_log_queue))
    (stored : ∀ other, system.disk other =
      disk other ++ writtenTo (system.closed ++ [⟨name, system.current⟩]) other) :
    Recorded disk system where
  order := by
    rw [files_opened (congrArg Stream.file opened), List.flatMap_append, List.flatMap_singleton]
    exact order
  opened := ⟨name, opened⟩
  stored := by
    rw [files_opened (congrArg Stream.file opened)]
    exact stored

theorem Recorded.pop (recorded : Recorded disk system) (popping : system.background = .pop)
    {log_entry : List UInt8} {rest : List (List UInt8)}
    (queue : system.logger.m_log_queue = log_entry :: rest) :
    Recorded disk
      { system with background := .popped log_entry, logger.m_log_queue := rest } where
  order := by
    have order := recorded.order
    rw [popping, queue] at order
    exact order
  opened := recorded.opened
  stored := recorded.stored

theorem Recorded.write (recorded : Recorded disk system) {log_entry : List UInt8}
    (popped : system.background = .popped log_entry) :
    Recorded disk { system.write log_entry true with background := .written } := by
  obtain ⟨order, ⟨name, opened⟩, stored⟩ := recorded
  have file := congrArg Stream.file opened
  rw [files_opened file] at order stored
  rw [write_opened file]
  refine Recorded.of_file name opened ?_ fun other => ?_
  · change system.pushed = _
    rw [order, popped]
    simp [inHand]
  · change Function.update system.disk name (system.disk name ++ log_entry) other =
      disk other ++ writtenTo (system.closed ++ [⟨name, system.current ++ [log_entry]⟩]) other
    rw [writtenTo_append, writtenTo_singleton]
    by_cases same : name = other
    · subst same
      rw [Function.update_self, stored, writtenTo_append, writtenTo_singleton]
      simp
    · rw [Function.update_of_ne (Ne.symm same), stored, writtenTo_append, writtenTo_singleton,
        if_neg same, if_neg same]

theorem Recorded.rotate (recorded : Recorded disk system) (written : system.background = .written)
    {response : Response} (opens : response.opens = true) :
    ∃ rotated, system.rotate response = some rotated ∧
      Recorded disk { rotated with background := .drain } := by
  obtain ⟨order, ⟨name, opened⟩, stored⟩ := recorded
  have file := congrArg Stream.file opened
  have closed := close_opened file
  rw [files_opened file] at order stored
  refine ⟨_, if_pos ⟨by rw [closed], opens⟩, ?_⟩
  rw [closed]
  let rotated := LogSystem.rotatedName system.logger.m_filename response.timestamp
  refine Recorded.of_file rotated rfl ?_ fun other => ?_
  · change system.pushed = _
    rw [order, written]
    simp [inHand]
  · change system.disk other =
      disk other ++ writtenTo (system.closed ++ [⟨name, system.current⟩] ++ [⟨rotated, []⟩]) other
    rw [stored, writtenTo_append _ [⟨rotated, []⟩], writtenTo_singleton rotated, List.flatten_nil,
      ite_self, List.append_nil]

theorem Recorded.turns (recorded : Recorded disk system) {background : Background}
    (turn : Turns system.logger system.background background) :
    Recorded disk { system with background := background } := by
  apply recorded.goes
  obtain ⟨name, opened⟩ := recorded.opened
  generalize system.background = place at turn
  cases turn with
  | fails log_entry failed =>
      rw [opened] at failed
      exact absurd failed Bool.false_ne_true
  | runs | halts | returns | continues | ready | waits | blocks | wakes | drained | takes | keeps =>
      rfl

theorem Recorded.moves (recorded : Recorded disk system) {action : LogAction}
    (succeeds : action.succeeds = true) (move : Moves system action next) :
    Recorded disk next := by
  have woken := recorded.wake
  cases move with
  | ignores => exact recorded
  | enters | counts | stops | joins =>
      exact ⟨recorded.order, recorded.opened, recorded.stored⟩
  | notifies | notifiesAll => exact ⟨woken.order, woken.opened, woken.stored⟩
  | pushes thread call =>
      refine ⟨?_, recorded.opened, recorded.stored⟩
      change system.pushed ++ [call.log_entry] = system.files.flatMap LogFile.entries ++
        (inHand system.background ++ (system.logger.m_log_queue ++ [call.log_entry]))
      rw [recorded.order]
      simp only [List.append_assoc]
  | turns response turn => exact recorded.turns turn
  | pops response place queue => exact recorded.pop place queue
  | writes response place =>
      obtain ⟨_, accepts⟩ := (Bool.and_eq_true _ _).mp succeeds
      rw [accepts]
      exact recorded.write place
  | rotates response place full rotation =>
      obtain ⟨opens, _⟩ := (Bool.and_eq_true _ _).mp succeeds
      obtain ⟨rotated, done, kept⟩ := recorded.rotate place opens
      cases done.symm.trans rotation
      exact kept
  | throws response place full failed =>
      obtain ⟨opens, _⟩ := (Bool.and_eq_true _ _).mp succeeds
      obtain ⟨rotated, done, _⟩ := recorded.rotate place opens
      cases done.symm.trans failed
  | wakes place =>
      apply recorded.goes
      rw [place]
      rfl

end Recorded

section Drained

variable {system next : LogSystem} {action : LogAction} {rest : List LogAction}

/-- The thread leaves its loop only behind the stop, and no entry comes behind that. -/
structure Drains (system : LogSystem) (rest : List LogAction) : Prop where
  quiet : system.logger.m_running = false → ∀ action ∈ rest, action.isLog = false
  stopped : system.background = .testQueue ∨ system.background = .returned →
    system.logger.m_running = false
  empty : system.background = .returned → system.logger.m_log_queue = []

theorem Drains.start (disk : List UInt8 → List UInt8) (filename file : List UInt8)
    (level : Level) (bytes : Int) :
    Drains (.started disk filename file level bytes) rest :=
  ⟨nofun, nofun, nofun⟩

theorem Drains.goes {other : LogSystem} {background : Background} (drains : Drains system rest)
    (running : other.logger.m_running = system.logger.m_running)
    (inside : background ≠ .testQueue ∧ background ≠ .returned) :
    Drains { other with background := background } rest where
  quiet halted := drains.quiet (running ▸ halted)
  stopped place := (place.elim inside.1 inside.2).elim
  empty place := (inside.2 place).elim

theorem write_running (log_entry : List UInt8) (accepts : Bool) :
    (system.write log_entry accepts).logger.m_running = system.logger.m_running := by
  unfold LogSystem.write
  split <;> rfl

theorem rotate_running {response : Response} (rotated : system.rotate response = some next) :
    next.logger.m_running = system.logger.m_running := by
  unfold LogSystem.rotate LogSystem.openFile at rotated
  split_ifs at rotated
  cases rotated
  change system.close.logger.m_running = _
  unfold LogSystem.close
  split <;> rfl

theorem Drains.wake (drains : Drains system rest) : Drains system.wake rest := by
  unfold LogSystem.wake
  split_ifs
  · exact drains.goes rfl (by decide)
  · exact drains

theorem Drains.turns (drains : Drains system rest) {background : Background}
    (turn : Turns system.logger system.background background) :
    Drains { system with background := background } rest := by
  have stopped := drains.stopped
  generalize system.background = place at turn stopped
  cases turn with
  | halts running => exact ⟨drains.quiet, fun _ => running, nofun⟩
  | returns queue => exact ⟨drains.quiet, fun _ => stopped (Or.inl rfl), fun _ => queue⟩
  | runs | continues | ready | waits | blocks | wakes | drained | takes | fails | keeps =>
      exact drains.goes rfl (by decide)

theorem Drains.moves (drains : Drains system (action :: rest))
    (last : ∀ later ∈ rest, action = .stop → later.isLog = false)
    (move : Moves system action next) : Drains next rest := by
  have quiet (halted : system.logger.m_running = false) : ∀ action ∈ rest, action.isLog = false :=
    fun later member => drains.quiet halted later (List.mem_cons_of_mem _ member)
  have later : Drains system rest := ⟨quiet, drains.stopped, drains.empty⟩
  have woken := later.wake
  cases move with
  | ignores => exact later
  | enters | counts | joins => exact ⟨later.quiet, later.stopped, later.empty⟩
  | notifies | notifiesAll => exact ⟨woken.quiet, woken.stopped, woken.empty⟩
  | pushes thread call =>
      refine ⟨quiet, drains.stopped, fun place => ?_⟩
      -- A thread that has returned has seen the flag that no push comes behind.
      have silent := drains.quiet (drains.stopped (Or.inr place)) (.push thread) List.mem_cons_self
      exact absurd silent Bool.noConfusion
  | turns response turn => exact later.turns turn
  | pops => exact ⟨later.quiet, nofun, nofun⟩
  | writes response => exact later.goes (write_running _ response.accepts) (by decide)
  | rotates response place full rotation => exact later.goes (rotate_running rotation) (by decide)
  | throws | wakes => exact later.goes rfl (by decide)
  | stops => exact ⟨fun _ other member => last other member rfl, fun _ => rfl, drains.empty⟩

end Drained

section Order

variable (disk : List UInt8 → List UInt8) (filename file : List UInt8) (level : Level) (bytes : Int)
  {schedule : List LogAction} {final : LogSystem}

theorem recorded_run (succeed : ∀ action ∈ schedule, action.succeeds = true)
    (run : follow LogSystem.step (.started disk filename file level bytes) schedule = some final) :
    Recorded disk final := by
  have kept := follow_invariant
    (fun system rest => Recorded disk system ∧ ∀ action ∈ rest, action.succeeds = true)
    (fun system action rest next ⟨recorded, outcomes⟩ now =>
      ⟨recorded.moves (outcomes action List.mem_cons_self) (step_moves now),
        fun later member => outcomes later (List.mem_cons_of_mem _ member)⟩)
    ⟨Recorded.start filename file level bytes, succeed⟩ run
  exact kept.1

theorem drains_run (last : StopsLast schedule)
    (run : follow LogSystem.step (.started disk filename file level bytes) schedule = some final) :
    Drains final [] := by
  have kept := follow_invariant (fun system rest => Drains system rest ∧ StopsLast rest)
    (fun system action rest next ⟨drains, order⟩ now =>
      have ⟨first, others⟩ := List.pairwise_cons.mp order
      ⟨drains.moves first (step_moves now), others⟩)
    ⟨Drains.start disk filename file level bytes, last⟩ run
  exact kept.1

/-- A log that returns has written every entry once and in the order of the pushes. -/
theorem log_order (succeed : ∀ action ∈ schedule, action.succeeds = true)
    (last : StopsLast schedule)
    (run : follow LogSystem.step (.started disk filename file level bytes) schedule = some final)
    (returned : final.background = .returned) :
    final.files.flatMap LogFile.entries = final.pushed ∧
      ∀ name, final.disk name = disk name ++ writtenTo final.files name := by
  have recorded := recorded_run disk filename file level bytes succeed run
  have drains := drains_run disk filename file level bytes last run
  refine ⟨?_, recorded.stored⟩
  rw [recorded.order, returned, drains.empty returned]
  exact (List.append_nil _).symm

def twoThreads : List LogAction :=
  let info : LogCall := ⟨.INFO, ascii "a.cpp", 7, ascii "2024-01-01 00:00:00", ascii "first"⟩
  let warn : LogCall := ⟨.WARN, ascii "b.cpp", 8, ascii "2024-01-01 00:00:01", ascii "second"⟩
  let go : LogAction := .process_logs ⟨ascii "2024-01-01 00_00_02", true, true⟩
  [.enter 0 info, go, .enter 1 warn, .count 1, go, .push 1, go, .count 0, .spurious, .notify 1,
    go, go, go, go, go, .push 0, go, go, go, go, .notify 0, go, go, .stop, go, .notifyAll, go]

theorem log_order_twoThreads :
    let final := (follow LogSystem.step (.started (fun _ => []) (ascii "test.log")
      (ascii "test.log") .DEBUG 10) twoThreads).get (by decide +kernel)
    final.files.flatMap LogFile.entries = final.pushed ∧
      ∀ name, final.disk name = [] ++ writtenTo final.files name :=
  log_order (fun _ => []) _ _ _ _ (by decide) (by decide) (Option.some_get _).symm
    (by decide +kernel)

end Order

end FzServer.Utility
