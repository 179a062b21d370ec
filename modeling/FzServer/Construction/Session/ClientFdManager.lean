import Mathlib.Logic.Function.Basic

/-
This file gives the tables that the server keeps for each descriptor number.
-/

namespace FzServer.Sessions

structure ClientFdManager where
  avFlags_ : Nat → Option Bool
  avSessionIds_ : Nat → Option (List UInt8)

namespace ClientFdManager

/-- The server starts with these tables. -/
def empty : ClientFdManager := ⟨fun _ => none, fun _ => none⟩

def setAvFlags (manager : ClientFdManager) (clientFd : Nat) (flag : Bool) : ClientFdManager :=
  { manager with avFlags_ := Function.update manager.avFlags_ clientFd (some flag) }

/-- This is the value that the getter returns. -/
def flag (manager : ClientFdManager) (clientFd : Nat) : Bool :=
  (manager.avFlags_ clientFd).getD false

/-- The getter inserts the default flag when the entry is missing. -/
def getAvFlags (manager : ClientFdManager) (clientFd : Nat) : Bool × ClientFdManager :=
  (manager.flag clientFd, manager.setAvFlags clientFd (manager.flag clientFd))

def setSessionIds (manager : ClientFdManager) (clientFd : Nat) (sessionId : List UInt8) :
    ClientFdManager :=
  { manager with avSessionIds_ := Function.update manager.avSessionIds_ clientFd (some sessionId) }

/-- This is the value that the getter returns. -/
def sessionId (manager : ClientFdManager) (clientFd : Nat) : List UInt8 :=
  (manager.avSessionIds_ clientFd).getD []

/-- The getter inserts the empty identifier when the entry is missing. -/
def getSessionIds (manager : ClientFdManager) (clientFd : Nat) : List UInt8 × ClientFdManager :=
  (manager.sessionId clientFd, manager.setSessionIds clientFd (manager.sessionId clientFd))

@[simp] theorem sessionId_setSessionIds (manager : ClientFdManager) (clientFd : Nat)
    (sessionId : List UInt8) :
    (manager.setSessionIds clientFd sessionId).sessionId clientFd = sessionId := by
  simp [ClientFdManager.sessionId, setSessionIds]

/-- Another descriptor keeps its identifier. -/
theorem sessionId_setSessionIds_of_ne (manager : ClientFdManager) {clientFd other : Nat}
    (sessionId : List UInt8) (different : other ≠ clientFd) :
    (manager.setSessionIds clientFd sessionId).sessionId other = manager.sessionId other := by
  simp [ClientFdManager.sessionId, setSessionIds, Function.update_of_ne different]

end ClientFdManager

end FzServer.Sessions
