import FzServer.Construction.Utility.IniFile
import FzServer.Foundation.Schedule

/-
This file gives the logger and its threads.
-/

namespace FzServer.Utility

open Foundation

inductive Level where
  | DEBUG
  | INFO
  | WARN
  | ERROR
  | FATAL
  deriving DecidableEq

def Level.number : Level → Nat
  | .DEBUG => 0
  | .INFO => 1
  | .WARN => 2
  | .ERROR => 3
  | .FATAL => 4

def s_level : Level → List UInt8
  | .DEBUG => ascii "DEBUG"
  | .INFO => ascii "INFO"
  | .WARN => ascii "WARN"
  | .ERROR => ascii "ERROR"
  | .FATAL => ascii "FATAL"

/-- A text whose length is no `int` makes the call fail. -/
def snprintf (text : List UInt8) : Int := if text.length < 0x80000000 then text.length else -1

/-- The local time and the text that the format makes come with the arguments. -/
structure LogCall where
  level : Level
  file : List UInt8
  line : Int
  timestamp : List UInt8
  content : List UInt8
  deriving DecidableEq

namespace LogCall

def header (call : LogCall) : List UInt8 :=
  call.timestamp ++ ascii " " ++ s_level call.level ++ ascii " " ++ call.file ++ ascii ":" ++
    decimal call.line ++ ascii " "

/-- The counter grows by this number of bytes. -/
def size (call : LogCall) : Int :=
  if 0 < snprintf call.header then snprintf call.header else 0

/-- A call without content pushes an empty entry. -/
def log_entry (call : LogCall) : List UInt8 :=
  let oss := if 0 < snprintf call.header then cstring call.header else []
  if 0 < snprintf call.content then oss ++ cstring call.content ++ [0x0A] else []

end LogCall

structure Stream where
  file : Option (List UInt8)
  failed : Bool

/-- The mutex of the log calls keeps the thread that holds it. -/
structure Logger where
  m_filename : List UInt8
  m_fout : Stream
  m_level : Level
  m_max : Int
  m_len : Int
  m_log_queue : List (List UInt8)
  m_log_mutex : Option Nat
  m_running : Bool

/-- These are the points at which a log call lets other threads go on. -/
inductive Progress where
  | entered
  | counted
  | pushed
  deriving DecidableEq

structure Caller where
  call : LogCall
  progress : Progress

/-- These are the points at which the background thread lets other threads go on. -/
inductive Background where
  | testRunning
  | testQueue
  | evaluate
  | block
  | blocked
  | woken
  | drain
  | pop
  | popped (log_entry : List UInt8)
  | written
  | returned
  | thrown
  deriving DecidableEq

inductive Stopping where
  | idle
  | flagged
  | notified
  | joined
  deriving DecidableEq

/-- A log file has the entries that were written between its opening and its closing. -/
structure LogFile where
  name : List UInt8
  entries : List (List UInt8)
  deriving DecidableEq

/-- The last three fields are a record of what happened and no thread reads them. -/
structure LogSystem where
  logger : Logger
  disk : List UInt8 → List UInt8
  background : Background
  callers : Nat → Option Caller
  stopping : Stopping
  pushed : List (List UInt8)
  closed : List LogFile
  current : List (List UInt8)

/-- The operating system gives the local time and says whether a file can be opened or written.
It takes an entry whole or refuses it whole, and it refuses it again when the stream closes. -/
structure Response where
  timestamp : List UInt8
  opens : Bool
  accepts : Bool
  deriving DecidableEq

namespace LogSystem

/-- These files were opened one after another. -/
def files (system : LogSystem) : List LogFile :=
  match system.logger.m_fout.file with
  | none => system.closed
  | some name => system.closed ++ [⟨name, system.current⟩]

def constructed (disk : List UInt8 → List UInt8) : LogSystem where
  logger := ⟨[], ⟨none, false⟩, .DEBUG, 0, 0, [], none, true⟩
  disk := disk
  background := .testRunning
  callers := fun _ => none
  stopping := .idle
  pushed := []
  closed := []
  current := []

def level (system : LogSystem) (level : Level) : LogSystem :=
  { system with logger.m_level := level }

def max (system : LogSystem) (bytes : Int) : LogSystem :=
  { system with logger.m_max := bytes }

def setFilename (system : LogSystem) (filename : List UInt8) : LogSystem :=
  { system with logger.m_filename := filename }

/-- No system stands for an exception. The stream appends to what the file holds. -/
def openFile (system : LogSystem) (filename : List UInt8) (opens : Bool) : Option LogSystem :=
  if system.logger.m_fout.file = none ∧ opens = true then
    some { system with
      logger.m_fout := ⟨some filename, false⟩
      logger.m_len := intOf (system.disk filename).length }
  else none

/-- The system refuses again what the stream still holds of a refused write. -/
def close (system : LogSystem) : LogSystem :=
  match system.logger.m_fout.file with
  | none => { system with logger.m_fout.failed := true }
  | some name =>
      { system with
        logger.m_fout.file := none
        closed := system.closed ++ [⟨name, system.current⟩]
        current := [] }

/-- The time goes in front of the suffix. -/
def rotatedName (filename timestamp : List UInt8) : List UInt8 :=
  match filename.tails.findIdx? fun rest => ascii ".log" <+: rest with
  | none => filename
  | some pos => filename.take pos ++ timestamp ++ filename.drop pos

def rotate (system : LogSystem) (response : Response) : Option LogSystem :=
  system.close.openFile (rotatedName system.logger.m_filename response.timestamp) response.opens

/-- A refused write loses the entry whole and leaves its mark on the stream. -/
def write (system : LogSystem) (log_entry : List UInt8) (accepts : Bool) : LogSystem :=
  match system.logger.m_fout.file, accepts with
  | some name, true =>
      { system with
        disk := Function.update system.disk name (system.disk name ++ log_entry)
        current := system.current ++ [log_entry] }
  | _, _ => { system with logger.m_fout.failed := true }

/-- A notification is lost unless the background thread is blocked. -/
def wake (system : LogSystem) : LogSystem :=
  if system.background = .blocked then { system with background := .woken } else system

/-- A call below the level of the logger returns at once. -/
def enter (system : LogSystem) (thread : Nat) (call : LogCall) : Option LogSystem :=
  match system.callers thread with
  | some _ => none
  | none =>
      if call.level.number < system.logger.m_level.number then some system
      else some { system with
        callers := Function.update system.callers thread (some ⟨call, .entered⟩) }

/-- The thread takes the mutex. The counter wraps like an `int`. -/
def count (system : LogSystem) (thread : Nat) : Option LogSystem :=
  match system.callers thread with
  | some ⟨call, .entered⟩ =>
      if system.logger.m_log_mutex = none then
        some { system with
          logger.m_log_mutex := some thread
          logger.m_len := (system.logger.m_len + call.size).bmod 0x100000000
          callers := Function.update system.callers thread (some ⟨call, .counted⟩) }
      else none
  | _ => none

/-- The thread leaves the mutex behind the push. -/
def push (system : LogSystem) (thread : Nat) : Option LogSystem :=
  match system.callers thread with
  | some ⟨call, .counted⟩ =>
      some { system with
        logger.m_log_queue := system.logger.m_log_queue ++ [call.log_entry]
        logger.m_log_mutex := none
        callers := Function.update system.callers thread (some ⟨call, .pushed⟩)
        pushed := system.pushed ++ [call.log_entry] }
  | _ => none

def notify (system : LogSystem) (thread : Nat) : Option LogSystem :=
  match system.callers thread with
  | some ⟨_, .pushed⟩ =>
      some { system.wake with callers := Function.update system.callers thread none }
  | _ => none

/-- Only the background thread takes the mutex of the condition, so it never waits for it. -/
def process_logs (system : LogSystem) (response : Response) : Option LogSystem :=
  match system.background with
  | .testRunning =>
      if system.logger.m_running then some { system with background := .evaluate }
      else some { system with background := .testQueue }
  | .testQueue =>
      if system.logger.m_log_queue = [] then some { system with background := .returned }
      else some { system with background := .evaluate }
  | .evaluate =>
      if system.logger.m_log_queue ≠ [] ∨ system.logger.m_running = false then
        some { system with background := .drain }
      else some { system with background := .block }
  | .block => some { system with background := .blocked }
  | .woken => some { system with background := .evaluate }
  | .drain =>
      if system.logger.m_log_queue = [] then some { system with background := .testRunning }
      else some { system with background := .pop }
  | .pop =>
      match system.logger.m_log_queue with
      | [] => none
      | log_entry :: rest =>
          some { system with background := .popped log_entry, logger.m_log_queue := rest }
  | .popped log_entry =>
      if system.logger.m_fout.failed then some { system with background := .thrown }
      else some { system.write log_entry response.accepts with background := .written }
  | .written =>
      if system.logger.m_max ≤ system.logger.m_len ∧ 0 < system.logger.m_max then
        match system.rotate response with
        | none => some { system with background := .thrown }
        | some rotated => some { rotated with background := .drain }
      else some { system with background := .drain }
  | .blocked | .returned | .thrown => none

/-- A blocked thread may also wake up without a notification. -/
def spurious (system : LogSystem) : Option LogSystem :=
  if system.background = .blocked then some { system with background := .woken } else none

def stop (system : LogSystem) : Option LogSystem :=
  if system.stopping = .idle then
    some { system with logger.m_running := false, stopping := .flagged }
  else none

def notifyAll (system : LogSystem) : Option LogSystem :=
  if system.stopping = .flagged then some { system.wake with stopping := .notified } else none

def join (system : LogSystem) : Option LogSystem :=
  if system.stopping = .notified ∧ system.background = .returned then
    some { system with stopping := .joined }
  else none

end LogSystem

/-- Any number of threads calls the logger. -/
inductive LogAction where
  | enter (thread : Nat) (call : LogCall)
  | count (thread : Nat)
  | push (thread : Nat)
  | notify (thread : Nat)
  | process_logs (response : Response)
  | spurious
  | stop
  | notifyAll
  | join
  deriving DecidableEq

/-- An exception in the background thread ends the program. -/
def LogSystem.step (system : LogSystem) (action : LogAction) : Option LogSystem :=
  if system.background = .thrown then none
  else
    match action with
    | .enter thread call => system.enter thread call
    | .count thread => system.count thread
    | .push thread => system.push thread
    | .notify thread => system.notify thread
    | .process_logs response => system.process_logs response
    | .spurious => system.spurious
    | .stop => system.stop
    | .notifyAll => system.notifyAll
    | .join => system.join

end FzServer.Utility
