import Mathlib.Logic.Function.Basic

/-
This file gives the sessions and the table that finds them by their identifier.
-/

namespace FzServer.Sessions

/-- The last constructor stands for the other bit patterns that a heap word may hold. -/
inductive SessionStaus
  | NONE
  | PLAYING
  | PAUSE
  | TEARDOWN
  | unnamed (bits : BitVec 32)
  deriving DecidableEq

structure RtspAttr where
  clientRtpPort_ : Int
  clientRtcpPort_ : Int
  serverRtpPort_ : Int
  serverRtcpPort_ : Int
  serverRtpSockfd_ : Int
  serverRtcpSockfd_ : Int
  deriving DecidableEq

/-- A new map entry is zero. -/
def RtspAttr.zero : RtspAttr := ⟨0, 0, 0, 0, 0, 0⟩

/-- The server uses no other keys in the attribute table. -/
inductive TrackName
  | video
  | audio
  deriving DecidableEq

structure Session where
  clientFd_ : Nat
  clientIp_ : List UInt8
  state_ : SessionStaus
  info : TrackName → Option RtspAttr

/-- The constructor assigns the state to its own parameter, so the field keeps the heap word. -/
def Session.create (heapState : SessionStaus) (clientFd : Nat) (clientIp : List UInt8)
    (_state : SessionStaus) : Session where
  clientFd_ := clientFd
  clientIp_ := clientIp
  state_ := heapState
  info := fun _ => none

def Session.setState (session : Session) (state : SessionStaus) : Session :=
  { session with state_ := state }

def Session.setInfo (session : Session) (track : TrackName) (attr : RtspAttr) : Session :=
  { session with info := Function.update session.info track (some attr) }

/-- Printing looks both tracks up, and a lookup inserts what is missing. -/
def Session.print (session : Session) : Session :=
  { session with info := fun track => some ((session.info track).getD RtspAttr.zero) }

/-- The access operator gives a zero entry when there is none. -/
def Session.attr (session : Session) (track : TrackName) : RtspAttr :=
  (session.info track).getD RtspAttr.zero

structure SessionManager where
  sessions : List UInt8 → Option Session

/-- The server starts with this table. -/
def SessionManager.empty : SessionManager := ⟨fun _ => none⟩

/-- This also models a change through the pointer that the table holds. -/
def SessionManager.addSession (manager : SessionManager) (sessionId : List UInt8)
    (session : Session) : SessionManager :=
  ⟨Function.update manager.sessions sessionId (some session)⟩

def SessionManager.getSession (manager : SessionManager) (sessionId : List UInt8) :
    Option Session :=
  manager.sessions sessionId

@[simp] theorem getSession_addSession (manager : SessionManager) (sessionId : List UInt8)
    (session : Session) :
    (manager.addSession sessionId session).getSession sessionId = some session :=
  Function.update_self _ _ _

/-- Other sessions keep their entries. -/
theorem getSession_addSession_of_ne (manager : SessionManager) {sessionId other : List UInt8}
    (session : Session) (different : other ≠ sessionId) :
    (manager.addSession sessionId session).getSession other = manager.getSession other :=
  Function.update_of_ne different _ _

end FzServer.Sessions
