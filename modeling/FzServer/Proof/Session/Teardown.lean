import FzServer.Proof.Session.Requests

/-
This file compares a teardown with what it leaves in the tables.
-/

namespace FzServer.Server

open Foundation Sessions Rtsp

/-- A request ends this session and gets a good answer. -/
structure TearsDown (session : List UInt8) (now : ServerStage) : Prop where
  request : ∃ request, requestOf now.before now.event = some request ∧
    request.method = some .TEARDOWN ∧ request.named = session
  existing : now.before.sessionManager.getSession session ≠ none
  answered : answered200 now.output = true

/-- The session is gone from all tables, and the other sessions are still there. -/
structure RemovesSession (session : List UInt8) (now : ServerStage) : Prop where
  gone : now.after.sessionManager.getSession session = none
  unmapped : ∀ clientFd, now.after.clientFdManager.avSessionIds_ clientFd ≠ some session
  others : ∀ other, other ≠ session →
    now.after.sessionManager.getSession other = now.before.sessionManager.getSession other

/-- The handler answers a teardown and leaves every session where it is. -/
theorem teardown_states {server : EpollServer} {event : Event} {request : Request}
    (found : requestOf server event = some request) (teardown : request.method = some .TEARDOWN) :
    stateOf (epollServer.stage server event).after.sessionManager =
      stateOf server.sessionManager := by
  obtain ⟨sBuf, built⟩ := built_plain request (by rw [teardown]; decide) (by rw [teardown]; decide)
  rw [stage_request found, serve_built request built]
  change stateOf (afterReply _ request.scanned.handler).1.sessionManager_ = _
  rw [(afterReply_finished _ _).states, requestOf_sessions found]

/-- The session is still found behind its teardown. -/
theorem TearsDown.kept {server : EpollServer} {event : Event} {session : List UInt8}
    (teardown : TearsDown session (epollServer.stage server event)) :
    (epollServer.stage server event).after.sessionManager.getSession session ≠ none := by
  obtain ⟨⟨request, found, method, _⟩, existing, _⟩ := teardown
  have states : stateOf (epollServer.stage server event).after.sessionManager =
    stateOf server.sessionManager := teardown_states found method
  intro missing
  have gone := (stateOf_eq_none _ session).mpr missing
  rw [states] at gone
  exact existing ((stateOf_eq_none _ session).mp gone)

/-- No teardown removes its session. -/
theorem teardown_never_removes {server : EpollServer} {event : Event} {session : List UInt8}
    (teardown : TearsDown session (epollServer.stage server event)) :
    ¬RemovesSession session (epollServer.stage server event) :=
  fun removed => teardown.kept removed.gone

/-- A client has set up its first track. -/
def withSession : List Event :=
  [.accept 5, sampleRequest 5 ["SETUP rtsp://h/track0 RTSP/1.0", "CSeq: 3"]]

def sampleTeardown : Event :=
  sampleRequest 5 ["TEARDOWN rtsp://h/ RTSP/1.0", "CSeq: 4",
    "Session: 00000000000000000000000000000000"]

theorem sampleTeardown_tearsDown :
    TearsDown (ascii "00000000000000000000000000000000")
      (epollServer.stage (epollServer.final EpollServer.start withSession) sampleTeardown) where
  request := ⟨(requestOf (epollServer.final EpollServer.start withSession) sampleTeardown).get
    (by decide +kernel), (Option.some_get _).symm, by decide +kernel, by decide +kernel⟩
  existing := by decide +kernel
  answered := by decide +kernel

theorem teardown_never_removes_sample :
    ¬RemovesSession (ascii "00000000000000000000000000000000")
      (epollServer.stage (epollServer.final EpollServer.start withSession) sampleTeardown) :=
  teardown_never_removes sampleTeardown_tearsDown

/-- A client that sets up a track and tears it down leaves its session. -/
theorem removesSession_fails :
    ¬∀ (events : List Event) (event : Event) (session : List UInt8),
      let now := epollServer.stage (epollServer.final EpollServer.start events) event
      TearsDown session now → RemovesSession session now := by
  intro always
  have removed := always withSession sampleTeardown _ sampleTeardown_tearsDown
  exact sampleTeardown_tearsDown.kept removed.gone

end FzServer.Server
