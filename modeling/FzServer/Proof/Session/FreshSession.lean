import FzServer.Proof.Session.SessionView

/-
This file finds the runs in which a new session waits for its first PLAY.
-/

namespace FzServer.Server

open Foundation Sessions Rtsp

/-- A request that creates a session marks it, and its first accepted PLAY clears the mark. -/
def freshAfter (history : List UInt8 → Bool) (request : Request) (accepted : Bool) :
    List UInt8 → Bool :=
  if accepted = true ∧ request.creates then Function.update history request.created true
  else if accepted = true ∧ request.method = some .PLAY then
    Function.update history request.named false
  else history

/-- Each session that waits for its first PLAY is in the state `NONE`. -/
def StaysFresh (history : List UInt8 → Bool) (view : SessionView) : Prop :=
  ∀ session, history session = true → view.states session = some .NONE

/-- Media starts for no request that names or creates a waiting session. -/
def PermitsPlayed (history : List UInt8 → Bool) (request : Request) (_ : Bool) : Prop :=
  history request.named = false ∧ ¬request.creates

/-- After each stage the waiting sessions are idle, and the stage starts only permitted media. -/
def WaitsForPlay : (List UInt8 → Bool) → ServerStage → Prop :=
  Watched freshAfter StaysFresh PermitsPlayed

/-- The heap word of each new session says `NONE`, and no SETUP that joins a playing session
names a waiting one. -/
structure StartsIdle (history : List UInt8 → Bool) (before : SessionView) (request : Request) :
    Prop where
  creates : request.creates → request.surroundings.heapState = .NONE
  attaches : request.attaches → before.states (before.ids request.clientFd) = some .PLAYING →
    history request.named = false

section History

variable (history : List UInt8 → Bool) {request : Request}

theorem freshAfter_failed : freshAfter history request false = history := by
  simp [freshAfter]

theorem freshAfter_creates (creates : request.creates) :
    freshAfter history request true = Function.update history request.created true :=
  if_pos ⟨rfl, creates⟩

theorem freshAfter_play (play : request.method = some .PLAY) :
    freshAfter history request true = Function.update history request.named false := by
  rw [freshAfter, if_neg fun both => request.not_creates_of_play play both.2, if_pos ⟨rfl, play⟩]

theorem freshAfter_other (joins : ¬request.creates) (noPlay : request.method ≠ some .PLAY)
    (accepted : Bool) : freshAfter history request accepted = history := by
  rw [freshAfter, if_neg fun both => joins both.2, if_neg fun both => noPlay both.2]

theorem freshAfter_attaches (attaches : request.attaches) (accepted : Bool) :
    freshAfter history request accepted = history := by
  apply freshAfter_other history (request.not_creates_of_attaches attaches)
  rw [attaches.1]
  decide

end History

section Answers

variable {history : List UInt8 → Bool} {request : Request} {before after : SessionView} {res : Int}
  {session : List UInt8}

/-- The sessions that wait after an answer are idle then. -/
theorem Answers.waits (answers : Answers request before res session after)
    (fresh : StaysFresh history before) (idle : StartsIdle history before request) :
    StaysFresh (freshAfter history request (res = 0)) after := by
  intro other was
  cases answers with
  | plain noSetup noPlay =>
      rw [freshAfter_other history (fun creates => noSetup creates.1) noPlay] at was
      exact fresh other was
  | refused play missing =>
      rw [show decide ((-1 : Int) = 0) = false from rfl, freshAfter_failed] at was
      exact fresh other was
  | plays play state found =>
      rw [show decide ((0 : Int) = 0) = true from rfl, freshAfter_play history play] at was
      by_cases same : other = request.named
      · rw [same, Function.update_self] at was
        exact absurd was (by decide)
      · rw [Function.update_of_ne same] at was
        simpa [Function.update_of_ne same] using fresh other was
  | creates creates =>
      rw [show decide ((0 : Int) = 0) = true from rfl, freshAfter_creates history creates] at was
      by_cases same : other = request.created
      · simp [same, idle.creates creates]
      · rw [Function.update_of_ne same] at was
        simpa [Function.update_of_ne same] using fresh other was
  | attaches attaches =>
      rw [freshAfter_attaches history attaches] at was
      exact fresh other was

/-- A request that starts media neither names nor creates a session that waits then. -/
theorem Answers.played (answers : Answers request before res session after)
    (fresh : StaysFresh history before) (idle : StartsIdle history before request)
    (playing : after.states session = some .PLAYING) :
    freshAfter history request (res = 0) request.named = false ∧ ¬request.creates := by
  cases answers with
  | plain noSetup noPlay =>
      have joins : ¬request.creates := fun creates => noSetup creates.1
      rw [freshAfter_other history joins noPlay, Bool.eq_false_iff]
      constructor
      · intro waiting
        rw [fresh request.named waiting] at playing
        exact absurd playing (by decide)
      · exact joins
  | refused play missing =>
      rw [missing] at playing
      exact absurd playing (by simp)
  | plays play state found =>
      rw [show decide ((0 : Int) = 0) = true from rfl, freshAfter_play history play,
        Function.update_self]
      exact ⟨rfl, request.not_creates_of_play play⟩
  | creates creates =>
      have word : request.surroundings.heapState = .PLAYING := by simpa using playing
      rw [idle.creates creates] at word
      exact absurd word (by decide)
  | attaches attaches state found =>
      rw [freshAfter_attaches history attaches]
      exact ⟨idle.attaches attaches playing, request.not_creates_of_attaches attaches⟩

/-- A PLAY request creates no session and joins none. -/
theorem startsIdle_of_play (play : request.method = some .PLAY) :
    StartsIdle history before request where
  creates creates := absurd creates (request.not_creates_of_play play)
  attaches attaches := absurd attaches (request.not_attaches_of_play play)

/-- A watched answer started its sessions idle. -/
theorem Answers.startsIdle (answers : Answers request before res session after)
    (stays : StaysFresh (freshAfter history request (res = 0)) after)
    (silent : after.states session = some .PLAYING →
      freshAfter history request (res = 0) request.named = false) :
    StartsIdle history before request := by
  cases answers with
  | plain noSetup =>
      exact ⟨fun creates => absurd creates.1 noSetup, fun attaches => absurd attaches.1 noSetup⟩
  | refused play => exact startsIdle_of_play play
  | plays play => exact startsIdle_of_play play
  | creates creates =>
      constructor
      · intro _
        have marked : freshAfter history request true request.created = true := by
          rw [freshAfter_creates history creates, Function.update_self]
        simpa using stays request.created marked
      · exact fun attaches => absurd creates (request.not_creates_of_attaches attaches)
  | attaches attaches state found =>
      constructor
      · exact fun creates => absurd creates (request.not_creates_of_attaches attaches)
      · intro _ playing
        rw [freshAfter_attaches history attaches] at silent
        exact silent playing

end Answers

/-- Starting idle is the exact rule. -/
theorem startsIdle_exact : Exact freshAfter StaysFresh PermitsPlayed StartsIdle where
  failed history request := freshAfter_failed history
  lost history view request attaches missing := by
    constructor
    · exact fun creates => absurd creates (request.not_creates_of_attaches attaches)
    · exact fun _ playing => absurd (missing.symm.trans playing) (by simp)
  answered history view request res session after unnamed fresh answers := by
    constructor
    · rintro ⟨stays, permits⟩
      exact answers.startsIdle stays fun playing => (permits playing).1
    · intro idle
      exact ⟨answers.waits fresh idle, answers.played fresh idle⟩

/-- New sessions wait for their first PLAY in a run exactly when each of them starts idle. -/
theorem waitsForPlay_run_iff (events : List Event) :
    epollServer.Always (marked freshAfter) (fun _ => false) EpollServer.start events WaitsForPlay ↔
      epollServer.Always (marked freshAfter) (fun _ => false) EpollServer.start events
        (EachRequest StartsIdle) :=
  startsIdle_exact.run_iff events _ fun _ waiting => absurd waiting (by decide)

/-- The first SETUP request starts media when the heap word says so. -/
theorem waitsForPlay_fails :
    ¬epollServer.Always (marked freshAfter) (fun _ => false) EpollServer.start
      [.accept 5,
        .readable 5 (receivedLines ["SETUP rtsp://h/track0 RTSP/1.0", "CSeq: 3"])
          { emptySurroundings with heapState := .PLAYING }]
      WaitsForPlay := by
  intro always
  have second := always _ (List.mem_cons_of_mem _ List.mem_cons_self)
  exact absurd (second.keeps (ascii "00000000000000000000000000000000") (by decide)) (by decide)

end FzServer.Server
