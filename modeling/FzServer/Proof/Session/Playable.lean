import FzServer.Proof.Session.ArrayBounds
import FzServer.Proof.Streaming.StreamedTracks

/-
This file says when a PLAY request is answered, in terms of the requests before it.
-/

namespace FzServer.Streaming

open Foundation Sessions Rtsp Server

/-- A PLAY request plays a session that was set up. It leaves any other session alone, and it ends
the process when it names one. -/
structure PlayExact (setUp : Bool) (now : ServerStage) (request : Request) : Prop where
  answered : answered200 now.output = setUp
  media : now.output.media = setUp
  refused : setUp = false → answeredError now.output = true ∧ now.after.view = now.before.view
  ends : now.output.exit = .nullSession ↔ setUp = false ∧ request.named ≠ []

def PlaysExactly (history : SetUpTracks) (now : ServerStage) : Prop :=
  ∀ request, requestOf now.before now.event = some request → request.method = some .PLAY →
    PlayExact (history request.named .video) now request

/-- The tables hold the sessions whose video track was set up, and none without a name. -/
structure Recorded (history : SetUpTracks) (view : SessionView) : Prop where
  known : ∀ session, view.states session ≠ none ↔ history session .video = true
  unnamed : view.states [] = none

theorem Recorded.start : Recorded SetUpTracks.none EpollServer.start.view :=
  ⟨fun _ => iff_of_false (fun stored => stored rfl) (by simp [SetUpTracks.none]), rfl⟩

section Stage

variable {history : SetUpTracks} {server : EpollServer} {event : Event} {request : Request}

theorem add_video_iff (session : List UInt8) (track : TrackName) (other : List UInt8) :
    history.add session track other .video = true ↔
      other = session ∧ track = .video ∨ history other .video = true := by
  by_cases same : other = session
  · subst same
    cases track with
    | video => simp [SetUpTracks.add]
    | audio => simp [SetUpTracks.add, Function.update_of_ne]
  · simp [SetUpTracks.add, same]

/-- An answer records exactly the session that it makes. -/
theorem answers_recorded {before after : SessionView} {res : Int} {session : List UInt8}
    (answers : Answers request before res session after) (recorded : Recorded history before) :
    Recorded (setUp history request (decide (res = 0))) after := by
  refine ⟨fun other => ?_, answers.unnamed recorded.unnamed⟩
  cases answers with
  | plain noSetup =>
      rw [setUp, if_neg fun both => noSetup both.2.1, if_neg fun both => noSetup both.2.1]
      exact recorded.known other
  | refused =>
      rw [decide_eq_false (by decide), setUp_failed]
      exact recorded.known other
  | plays play state found =>
      have kept : setUp history request (decide ((0 : Int) = 0)) = history := by
        rw [setUp, if_neg fun both => request.not_creates_of_play play both.2,
          if_neg fun both => request.not_attaches_of_play play both.2]
      rw [kept, ← recorded.known other]
      by_cases same : other = request.named
      · simp [same, found]
      · simp only [Function.update_of_ne same]
  | creates creates =>
      rw [setUp, if_pos ⟨decide_eq_true rfl, creates⟩, add_video_iff, ← recorded.known other]
      by_cases same : other = request.created
      · simp [same]
      · simp only [Function.update_of_ne same, same, false_and, false_or]
  | attaches attaches =>
      rw [setUp, if_neg fun both => request.not_creates_of_attaches attaches both.2,
        if_pos ⟨decide_eq_true rfl, attaches⟩, add_video_iff, ← recorded.known other]
      simp

theorem stage_recorded (recorded : Recorded history server.view) :
    Recorded (marked setUp history (epollServer.stage server event))
      (epollServer.stage server event).after.view := by
  cases found : requestOf server event with
  | none =>
      have same : marked setUp history (epollServer.stage server event) = history := by
        rcases follow_silent found with same | ⟨clientFd, same⟩
        · exact same
        · exact same
      rw [same, stage_silent_view found]
      exact recorded
  | some request =>
      cases stage_serves found with
      | lost _ _ same silent =>
          rw [marked, follow_request found, silent, same, answered200, Option.any_none,
            setUp_failed]
          exact recorded
      | answered reply session answers sent _ _ =>
          rw [marked, follow_request found, answered200, sent, Option.any_some]
          exact answers_recorded answers recorded

/-- The record decides the answer to PLAY. -/
theorem stage_playExact (recorded : Recorded history server.view)
    (found : requestOf server event = some request) (play : request.method = some .PLAY) :
    PlayExact (history request.named .video) (epollServer.stage server event) request := by
  cases stage_serves found with
  | lost attaches => exact absurd attaches (request.not_attaches_of_play play)
  | answered reply session answers sent media exit =>
      have known := recorded.known request.named
      have ok : answered200 (epollServer.stage server event).output = decide (reply.res = 0) := by
        rw [answered200, sent, Option.any_some]
      have error : answeredError (epollServer.stage server event).output =
          decide (reply.res = -1 ∨ reply.res = -2) := by
        rw [answeredError, sent, Option.any_some]
      rw [Machine.stage_before] at answers
      generalize afterEq : (epollServer.stage server event).after.view = after at answers media exit
      generalize reply.res = res at answers ok error
      cases answers with
      | plain _ noPlay => exact absurd play noPlay
      | creates creates => exact absurd creates (request.not_creates_of_play play)
      | attaches attaches => exact absurd attaches (request.not_attaches_of_play play)
      | refused _ missing =>
          have absent : history request.named .video = false := by
            rw [Bool.eq_false_iff]
            exact fun recordedVideo => known.mpr recordedVideo missing
          rw [absent]
          refine ⟨ok, ?_, fun _ => ⟨error, afterEq⟩, ?_⟩
          · rw [Bool.eq_false_iff, ne_eq, media, missing]
            exact fun both => absurd both.2 (by simp)
          · rw [exit]
            simp [missing]
      | plays _ state stored =>
          have present : history request.named .video = true :=
            known.mp (by rw [stored]; exact Option.some_ne_none state)
          have named : request.named ≠ [] := by
            intro empty
            rw [empty, recorded.unnamed] at stored
            exact Option.some_ne_none state stored.symm
          rw [present]
          refine ⟨ok, ?_, fun absent => absurd absent (by decide), ?_⟩
          · rw [media]
            simp [named]
          · rw [exit]
            simp

end Stage

/-- While the requests fit the arrays, a PLAY request plays exactly the sessions that an earlier
SETUP made. -/
theorem play_exact (events : List Event) (fits : RunFits events) :
    RunInArrays events ∧
      epollServer.Always (marked setUp) SetUpTracks.none EpollServer.start events PlaysExactly :=
  ⟨run_inArrays fits,
    Machine.always_of_invariant (fun history server => Recorded history server.view)
      (fun _ _ _ recorded _ _ found play => stage_playExact recorded found play)
      (fun _ _ _ recorded _ _ => stage_recorded recorded) events _ _ Recorded.start
      (show epollServer.Always (marked setUp) SetUpTracks.none EpollServer.start events
        fun _ _ => True from fun _ _ => trivial)⟩

/-- The client plays the session that it set up, and then one that no client set up. -/
def playedTwice : List Event :=
  [.accept 5, sampleRequest 5 ["SETUP rtsp://h/track0 RTSP/1.0", "CSeq: 3"],
    sampleRequest 5 ["PLAY rtsp://h/ RTSP/1.0", "CSeq: 4",
      "Session: 00000000000000000000000000000000"],
    sampleRequest 5 ["PLAY rtsp://h/ RTSP/1.0", "CSeq: 5", "Session: 1"]]

theorem play_exact_twice :
    RunInArrays playedTwice ∧
      epollServer.Always (marked setUp) SetUpTracks.none EpollServer.start playedTwice
        PlaysExactly :=
  play_exact playedTwice (by decide +kernel)

end FzServer.Streaming
