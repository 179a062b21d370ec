import FzServer.Proof.Session.SessionView

/-
This file finds the runs in which no request reads through a null session.
-/

namespace FzServer.Server

open Foundation Sessions Rtsp

/-- The history says which open connections made a SETUP request for their first track. -/
def firstTrack : (Nat → Bool) → ServerStage → Nat → Bool :=
  follow
    (fun history request _ =>
      if request.creates then Function.update history request.clientFd true else history)
    (fun history clientFd => Function.update history clientFd false)

/-- The request names a session that does not exist. -/
def NamesUnknown (view : SessionView) (request : Request) : Prop :=
  request.named ≠ [] ∧ view.states request.named = none

/-- The request sets up the second track, and its connection never set up the first. -/
def SecondWithoutFirst (history : Nat → Bool) (request : Request) : Prop :=
  request.attaches ∧ history request.clientFd = false

/-- The step survives, and a request without its session is refused and changes no session. -/
def RefusesMissing (history : Nat → Bool) (now : ServerStage) : Prop :=
  now.output.exit ≠ .nullSession ∧
    ∀ request, requestOf now.before now.event = some request →
      NamesUnknown now.before.view request ∨ SecondWithoutFirst history request →
      answeredError now.output = true ∧ now.after.sessionManager = now.before.sessionManager

/-- The request names no session or one that exists, and its tracks come in order. -/
def HasSession (history : Nat → Bool) (now : ServerStage) : Prop :=
  ∀ request, requestOf now.before now.event = some request →
    ¬NamesUnknown now.before.view request ∧ ¬SecondWithoutFirst history request

/-- No session has the empty name, and each descriptor with a first track has its session. -/
structure Bound (history : Nat → Bool) (server : EpollServer) : Prop where
  unnamed : server.view.states [] = none
  first : ∀ clientFd, history clientFd = true →
    server.view.states (server.view.ids clientFd) ≠ none

theorem Bound.start : Bound (fun _ => false) EpollServer.start where
  unnamed := rfl
  first _ made := absurd made (by decide)

/-- A step that keeps the view keeps the bound. -/
theorem Bound.of_view {history : Nat → Bool} {before after : EpollServer}
    (bound : Bound history before) (same : after.view = before.view) : Bound history after where
  unnamed := by rw [same]; exact bound.unnamed
  first clientFd made := by rw [same]; exact bound.first clientFd made

/-- A history with fewer first tracks needs fewer sessions. -/
theorem Bound.forget {history : Nat → Bool} {server : EpollServer} (bound : Bound history server)
    (clientFd : Nat) : Bound (Function.update history clientFd false) server where
  unnamed := bound.unnamed
  first other made := by
    by_cases same : other = clientFd
    · rw [same, Function.update_self] at made
      exact absurd made (by decide)
    · rw [Function.update_of_ne same] at made
      exact bound.first other made

section Step

variable {history : Nat → Bool} {server : EpollServer} {event : Event} {request : Request}

/-- A created session is known on its descriptor from then on. -/
theorem Bound.answered (bound : Bound history server) {after : EpollServer} {res : Int}
    {session : List UInt8} (answers : Answers request server.view res session after.view) :
    Bound (if request.creates then Function.update history request.clientFd true else history)
      after where
  unnamed := answers.unnamed bound.unnamed
  first clientFd made := by
    rw [answers.ids]
    by_cases creates : request.creates
    · rw [if_pos creates] at made
      by_cases same : clientFd = request.clientFd
      · rw [if_pos ⟨creates, same⟩, answers.created_state creates]
        simp
      · rw [Function.update_of_ne same] at made
        rw [if_neg fun both => same both.2]
        exact answers.known (bound.first clientFd made)
    · rw [if_neg creates] at made
      rw [if_neg fun both => creates both.1]
      exact answers.known (bound.first clientFd made)

/-- Each surviving step keeps the bound. -/
theorem bound_step (bound : Bound history server)
    (survives : epollServer.halts (epollServer.stage server event).output = false) :
    Bound (firstTrack history (epollServer.stage server event))
      (epollServer.stage server event).after := by
  cases found : requestOf server event with
  | none =>
      have kept := bound.of_view (stage_silent_view found)
      rcases follow_silent found with same | ⟨clientFd, forgets⟩
      · rw [firstTrack, same]
        exact kept
      · rw [firstTrack, forgets]
        exact kept.forget clientFd
  | some request =>
      rw [firstTrack, follow_request found]
      cases stage_serves found with
      | lost _ _ _ silent =>
          rw [silent] at survives
          exact absurd survives (by decide)
      | answered reply session answers => exact bound.answered answers

/-- A request whose session is missing is not refused. -/
theorem not_refused (found : requestOf server event = some request)
    (missing : NamesUnknown server.view request ∨ SecondWithoutFirst history request)
    (survives : (epollServer.stage server event).output.exit ≠ .nullSession) :
    answeredError (epollServer.stage server event).output ≠ true := by
  intro error
  cases stage_serves found with
  | lost _ _ _ silent => exact survives (by rw [silent])
  | answered reply session answers sent _ exit =>
      have failed : reply.res = -1 ∨ reply.res = -2 := by simpa [answeredError, sent] using error
      rcases answers.error failed with ⟨same, unchanged, noSetup⟩
      rcases missing with ⟨named, unknown⟩ | ⟨attaches, _⟩
      · refine survives (exit.mpr ⟨by rw [same]; exact named, ?_⟩)
        rw [unchanged, same]
        exact unknown
      · exact noSetup attaches.1

/-- A step refuses what is missing exactly when nothing is missing. -/
theorem refusesMissing_iff (bound : Bound history server) :
    RefusesMissing history (epollServer.stage server event) ↔
      HasSession history (epollServer.stage server event) := by
  constructor
  · rintro ⟨survives, refuses⟩ request found
    constructor
    · intro unknown
      have missing : _ ∨ SecondWithoutFirst history request := Or.inl unknown
      exact not_refused found missing survives (refuses request found missing).1
    · intro second
      have missing : NamesUnknown server.view request ∨ _ := Or.inr second
      exact not_refused found missing survives (refuses request found missing).1
  · intro has
    constructor
    · cases found : requestOf server event with
      | none => exact (stage_silent found).2.2.2.2
      | some request =>
          obtain ⟨known, ordered⟩ := has request found
          cases stage_serves found with
          | lost attaches missing _ _ =>
              have made : history request.clientFd = true := by
                cases first : history request.clientFd with
                | false => exact absurd ⟨attaches, first⟩ ordered
                | true => rfl
              exact absurd missing (bound.first request.clientFd made)
          | answered reply session answers _ _ exit =>
              rw [Ne, exit]
              rintro ⟨named, missing⟩
              exact answers.survives known named missing
    · intro request found missing
      rcases missing with unknown | second
      · exact absurd unknown (has request found).1
      · exact absurd second (has request found).2

end Step

/-- No request of a run meets a missing session exactly when every request of the run has its
session. -/
theorem refusesMissing_run_iff (events : List Event) :
    epollServer.Always firstTrack (fun _ => false) EpollServer.start events RefusesMissing ↔
      epollServer.Always firstTrack (fun _ => false) EpollServer.start events HasSession :=
  Machine.always_iff_of_invariant Bound (fun _ _ _ => refusesMissing_iff)
    (fun _ _ _ bound _ => bound_step bound) events _ _ Bound.start

/-- A request for options that names an unknown session ends the process. -/
theorem refusesMissing_fails :
    ¬epollServer.Always firstTrack (fun _ => false) EpollServer.start
      [.accept 5, sampleRequest 5 ["OPTIONS rtsp://h/ RTSP/1.0", "CSeq: 1", "Session: x"]]
      RefusesMissing := by
  intro always
  have second := always _ (List.mem_cons_of_mem _ List.mem_cons_self)
  exact second.1 (by decide)

end FzServer.Server
