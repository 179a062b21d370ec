import FzServer.Proof.Session.SessionView

/-
This file finds the runs in which PAUSE and TEARDOWN stop the playback.
-/

namespace FzServer.Server

open Foundation Sessions Rtsp

/-- A request to stop names its session in the Session header. -/
def Request.stops (request : Request) : Prop :=
  request.method = some .PAUSE ∨ request.method = some .TEARDOWN

instance (request : Request) : Decidable request.stops := inferInstanceAs (Decidable (_ ∨ _))

/-- An accepted request to stop marks its session, and an accepted PLAY clears the mark. -/
def stopAfter (history : List UInt8 → Bool) (request : Request) (accepted : Bool) :
    List UInt8 → Bool :=
  if accepted = true ∧ request.stops ∧ request.named ≠ [] then
    Function.update history request.named true
  else if accepted = true ∧ request.method = some .PLAY then
    Function.update history request.named false
  else history

/-- No stopped session plays. -/
def StaysStopped (history : List UInt8 → Bool) (view : SessionView) : Prop :=
  ∀ session, history session = true → view.states session ≠ some .PLAYING

/-- Media starts for no request that names a stopped session and for none that fails. -/
def PermitsMedia (history : List UInt8 → Bool) (request : Request) (error : Bool) : Prop :=
  history request.named = false ∧ error = false

/-- After each stage no stopped session plays, and the stage starts only permitted media. -/
def ObeysControl : (List UInt8 → Bool) → ServerStage → Prop :=
  Watched stopAfter StaysStopped PermitsMedia

/-- No request to stop and no unknown method names a session that plays, and no SETUP of a
playing session names or creates a stopped session. -/
structure LeavesPlaying (history : List UInt8 → Bool) (before : SessionView) (request : Request) :
    Prop where
  idle : request.stops ∨ request.method = none → before.states request.named ≠ some .PLAYING
  creates : request.creates → request.surroundings.heapState = .PLAYING →
    history request.created = false ∧ history request.named = false
  attaches : request.attaches → before.states (before.ids request.clientFd) = some .PLAYING →
    history request.named = false

theorem Request.stops.known {request : Request} (stops : request.stops) :
    request.method ≠ none := by
  rcases stops with pause | teardown
  · rw [pause]
    decide
  · rw [teardown]
    decide

/-- A request to stop and an unknown method are neither SETUP nor PLAY. -/
theorem Request.idle_method {request : Request} (idle : request.stops ∨ request.method = none) :
    request.method ≠ some .SETUP ∧ request.method ≠ some .PLAY := by
  rcases idle with (pause | teardown) | unknown
  · simp [pause]
  · simp [teardown]
  · simp [unknown]

section History

variable (history : List UInt8 → Bool) {request : Request}

theorem stopAfter_failed : stopAfter history request false = history := by
  simp [stopAfter]

theorem stopAfter_stops (stops : request.stops) (named : request.named ≠ []) :
    stopAfter history request true = Function.update history request.named true :=
  if_pos ⟨rfl, stops, named⟩

theorem stopAfter_play (play : request.method = some .PLAY) :
    stopAfter history request true = Function.update history request.named false := by
  have goes : ¬request.stops := by simp [Request.stops, play]
  rw [stopAfter, if_neg fun all => goes all.2.1, if_pos ⟨rfl, play⟩]

theorem stopAfter_other (goes : ¬request.stops) (noPlay : request.method ≠ some .PLAY)
    (accepted : Bool) : stopAfter history request accepted = history := by
  rw [stopAfter, if_neg fun all => goes all.2.1, if_neg fun both => noPlay both.2]

theorem stopAfter_setup (setup : request.method = some .SETUP) (accepted : Bool) :
    stopAfter history request accepted = history :=
  stopAfter_other history (by simp [Request.stops, setup]) (by simp [setup]) accepted

end History

section Answers

variable {history : List UInt8 → Bool} {request : Request} {before after : SessionView} {res : Int}
  {session : List UInt8}

/-- The sessions that are stopped after an answer do not play then. -/
theorem Answers.stays (answers : Answers request before res session after)
    (halted : StaysStopped history before) (leaves : LeavesPlaying history before request)
    (other : List UInt8) (was : stopAfter history request (res = 0) other = true) :
    after.states other ≠ some .PLAYING := by
  cases answers with
  | plain noSetup noPlay =>
      by_cases marks : request.stops ∧ request.named ≠ []
      · by_cases same : other = request.named
        · rw [same]
          exact leaves.idle (Or.inl marks.1)
        · rw [if_neg marks.1.known, show decide ((0 : Int) = 0) = true from rfl,
            stopAfter_stops history marks.1 marks.2, Function.update_of_ne same] at was
          exact halted other was
      · rw [stopAfter, if_neg fun all => marks all.2, if_neg fun both => noPlay both.2] at was
        exact halted other was
  | refused play missing =>
      rw [show decide ((-1 : Int) = 0) = false from rfl, stopAfter_failed] at was
      exact halted other was
  | plays play state found =>
      rw [show decide ((0 : Int) = 0) = true from rfl, stopAfter_play history play] at was
      by_cases same : other = request.named
      · rw [same, Function.update_self] at was
        exact absurd was (by decide)
      · rw [Function.update_of_ne same] at was
        simpa [Function.update_of_ne same] using halted other was
  | creates creates =>
      rw [stopAfter_setup history creates.1] at was
      by_cases same : other = request.created
      · intro playing
        rw [same] at was playing
        have word : request.surroundings.heapState = .PLAYING := by simpa using playing
        rw [(leaves.creates creates word).1] at was
        exact absurd was (by decide)
      · simpa [Function.update_of_ne same] using halted other was
  | attaches attaches =>
      rw [stopAfter_setup history attaches.1] at was
      exact halted other was

/-- A request that starts media names no session that is stopped then. -/
theorem Answers.silent (answers : Answers request before res session after)
    (halted : StaysStopped history before) (leaves : LeavesPlaying history before request)
    (playing : after.states session = some .PLAYING) :
    stopAfter history request (res = 0) request.named = false := by
  cases answers with
  | plain noSetup noPlay =>
      have goes : ¬request.stops := fun stops => leaves.idle (Or.inl stops) playing
      rw [stopAfter_other history goes noPlay, Bool.eq_false_iff]
      exact fun was => halted request.named was playing
  | refused play missing =>
      rw [missing] at playing
      exact absurd playing (by simp)
  | plays play state found =>
      rw [show decide ((0 : Int) = 0) = true from rfl, stopAfter_play history play,
        Function.update_self]
  | creates creates =>
      have word : request.surroundings.heapState = .PLAYING := by simpa using playing
      rw [stopAfter_setup history creates.1]
      exact (leaves.creates creates word).2
  | attaches attaches state found =>
      rw [stopAfter_setup history attaches.1]
      exact leaves.attaches attaches playing

/-- An error leaves a session that does not play. -/
theorem Answers.error_quiet (answers : Answers request before res session after)
    (leaves : LeavesPlaying history before request) (failed : res = -1 ∨ res = -2) :
    after.states session ≠ some .PLAYING := by
  cases answers with
  | plain noSetup noPlay =>
      apply leaves.idle
      right
      by_contra known
      rw [if_neg known] at failed
      exact absurd failed (by decide)
  | refused play missing => simp [missing]
  | plays => exact absurd failed (by decide)
  | creates => exact absurd failed (by decide)
  | attaches => exact absurd failed (by decide)

/-- A PLAY request leaves the playing sessions alone. -/
theorem leavesPlaying_of_play (play : request.method = some .PLAY) :
    LeavesPlaying history before request where
  idle idle := absurd play (Request.idle_method idle).2
  creates creates := absurd creates (request.not_creates_of_play play)
  attaches attaches := absurd attaches (request.not_attaches_of_play play)

/-- An answer that obeys left the playing sessions alone. -/
theorem Answers.leaves (answers : Answers request before res session after)
    (unnamed : before.states [] = none)
    (stays : ∀ other, stopAfter history request (res = 0) other = true →
      after.states other ≠ some .PLAYING)
    (silent : after.states session = some .PLAYING →
      stopAfter history request (res = 0) request.named = false)
    (quiet : res = -1 ∨ res = -2 → after.states session ≠ some .PLAYING) :
    LeavesPlaying history before request := by
  cases answers with
  | plain noSetup noPlay =>
      constructor
      · rintro (stops | unknown) playing
        · have named : request.named ≠ [] := by
            intro empty
            rw [empty, unnamed] at playing
            exact absurd playing (by simp)
          have halted : stopAfter history request true request.named = true := by
            rw [stopAfter_stops history stops named, Function.update_self]
          rw [if_neg stops.known] at stays
          exact stays request.named halted playing
        · exact quiet (by simp [unknown]) playing
      · exact fun creates => absurd creates.1 noSetup
      · exact fun attaches => absurd attaches.1 noSetup
  | refused play => exact leavesPlaying_of_play play
  | plays play => exact leavesPlaying_of_play play
  | creates creates =>
      constructor
      · exact fun idle => absurd creates.1 (Request.idle_method idle).1
      · intro _ word
        rw [stopAfter_setup history creates.1] at stays silent
        constructor
        · rw [Bool.eq_false_iff]
          exact fun was => stays request.created was (by simp [word])
        · exact silent (by simp [word])
      · exact fun attaches => absurd creates (request.not_creates_of_attaches attaches)
  | attaches attaches state found =>
      constructor
      · exact fun idle => absurd attaches.1 (Request.idle_method idle).1
      · exact fun creates => absurd creates (request.not_creates_of_attaches attaches)
      · intro _ playing
        rw [stopAfter_setup history attaches.1] at silent
        exact silent playing

end Answers

/-- Leaving the playing sessions alone is the exact rule. -/
theorem leavesPlaying_exact : Exact stopAfter StaysStopped PermitsMedia LeavesPlaying where
  failed history request := stopAfter_failed history
  lost history view request attaches missing := by
    constructor
    · exact fun idle => absurd attaches.1 (Request.idle_method idle).1
    · exact fun creates => absurd creates (request.not_creates_of_attaches attaches)
    · exact fun _ playing => absurd (missing.symm.trans playing) (by simp)
  answered history view request res session after unnamed halted answers := by
    constructor
    · rintro ⟨stays, permits⟩
      apply answers.leaves unnamed stays
      · exact fun playing => (permits playing).1
      · exact fun failed playing => of_decide_eq_false (permits playing).2 failed
    · intro leaves
      constructor
      · exact answers.stays halted leaves
      · intro playing
        constructor
        · exact answers.silent halted leaves playing
        · exact decide_eq_false fun failed => answers.error_quiet leaves failed playing

/-- The playback control is obeyed in a run exactly when each request of the run leaves the
playing sessions alone. -/
theorem obeysControl_run_iff (events : List Event) :
    epollServer.Always (marked stopAfter) (fun _ => false) EpollServer.start events ObeysControl ↔
      epollServer.Always (marked stopAfter) (fun _ => false) EpollServer.start events
        (EachRequest LeavesPlaying) :=
  leavesPlaying_exact.run_iff events _ fun _ stopped => absurd stopped (by decide)

/-- The server streams in answer to the request that pauses the stream. -/
theorem obeysControl_fails :
    ¬epollServer.Always (marked stopAfter) (fun _ => false) EpollServer.start
      [.accept 5,
        sampleRequest 5 ["SETUP rtsp://h/track0 RTSP/1.0", "CSeq: 3"],
        sampleRequest 5 ["PLAY rtsp://h/ RTSP/1.0", "CSeq: 5",
          "Session: 00000000000000000000000000000000"],
        sampleRequest 5 ["PAUSE rtsp://h/ RTSP/1.0", "CSeq: 6",
          "Session: 00000000000000000000000000000000"]]
      ObeysControl := by
  intro always
  have fourth := always _ (List.mem_cons_of_mem _ (List.mem_cons_of_mem _
    (List.mem_cons_of_mem _ List.mem_cons_self)))
  exact fourth.keeps (ascii "00000000000000000000000000000000") (by decide) (by decide)

end FzServer.Server
