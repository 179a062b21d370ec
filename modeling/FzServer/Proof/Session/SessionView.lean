import FzServer.Proof.Session.Requests

/-
This file gives the sessions as a client sees them and proves that the server refines them.
-/

namespace FzServer.Server

open Foundation Sessions Rtsp

/-- A client sees the state of each session and the session of each descriptor. -/
structure SessionView where
  states : List UInt8 → Option SessionStaus
  ids : Nat → List UInt8

def EpollServer.view (server : EpollServer) : SessionView where
  states := stateOf server.sessionManager
  ids := server.clientFdManager.sessionId

/-- An answered request has a result, ends on one session, and changes the view. -/
inductive Answers (request : Request) (before : SessionView) :
    Int → List UInt8 → SessionView → Prop
  | plain (noSetup : request.method ≠ some .SETUP) (noPlay : request.method ≠ some .PLAY) :
      Answers request before (if request.method = none then -2 else 0) request.named before
  | refused (play : request.method = some .PLAY) (missing : before.states request.named = none) :
      Answers request before (-1) request.named before
  | plays (play : request.method = some .PLAY) (state : SessionStaus)
      (found : before.states request.named = some state) :
      Answers request before 0 request.named
        { before with states := Function.update before.states request.named (some .PLAYING) }
  | creates (creates : request.creates) :
      Answers request before 0 request.created {
        states := Function.update before.states request.created
          (some request.surroundings.heapState)
        ids := Function.update before.ids request.clientFd request.created }
  | attaches (attaches : request.attaches) (state : SessionStaus)
      (found : before.states (before.ids request.clientFd) = some state) :
      Answers request before 0 (before.ids request.clientFd) before

/-- A request is lost with the process, or it is answered. -/
inductive Serves (request : Request) (now : ServerStage) : Prop
  | lost (attaches : request.attaches)
      (missing : now.before.view.states (now.before.view.ids request.clientFd) = none)
      (same : now.after.view = now.before.view)
      (silent : now.output = ⟨none, false, .nullSession⟩)
  | answered (reply : Reply) (session : List UInt8)
      (answers : Answers request now.before.view reply.res session now.after.view)
      (sent : now.output.reply = some reply)
      (media : now.output.media = true ↔
        session ≠ [] ∧ now.after.view.states session = some .PLAYING)
      (exit : now.output.exit = .nullSession ↔
        session ≠ [] ∧ now.after.view.states session = none)

section Answers

variable {request : Request} {before after : SessionView} {res : Int} {session : List UInt8}

/-- No request removes a session. -/
theorem Answers.known (answers : Answers request before res session after) {other : List UInt8}
    (known : before.states other ≠ none) : after.states other ≠ none := by
  cases answers with
  | plain => exact known
  | refused => exact known
  | plays play state found =>
      by_cases same : other = request.named
      · simp [same]
      · simpa [Function.update_of_ne same] using known
  | creates creates =>
      by_cases same : other = request.created
      · simp [same]
      · simpa [Function.update_of_ne same] using known
  | attaches => exact known

/-- No request makes a session with the empty name. -/
theorem Answers.unnamed (answers : Answers request before res session after)
    (unnamed : before.states [] = none) : after.states [] = none := by
  cases answers with
  | plain => exact unnamed
  | refused => exact unnamed
  | plays play state found =>
      have named : [] ≠ request.named := by
        intro same
        rw [← same, unnamed] at found
        exact absurd found (by simp)
      simpa [Function.update_of_ne named] using unnamed
  | creates creates =>
      have fresh : [] ≠ request.created := (generateSessionId_ne_nil _).symm
      simpa [Function.update_of_ne fresh] using unnamed
  | attaches => exact unnamed

/-- Only a request that creates a session changes the session of a descriptor. -/
theorem Answers.ids (answers : Answers request before res session after) (clientFd : Nat) :
    after.ids clientFd =
      if request.creates ∧ clientFd = request.clientFd then request.created
      else before.ids clientFd := by
  cases answers with
  | plain noSetup => rw [if_neg fun both => noSetup both.1.1]
  | refused play => rw [if_neg fun both => request.not_creates_of_play play both.1]
  | plays play => rw [if_neg fun both => request.not_creates_of_play play both.1]
  | creates creates =>
      by_cases same : clientFd = request.clientFd
      · simp [same, creates]
      · simp [same]
  | attaches attaches => rw [if_neg fun both => request.not_creates_of_attaches attaches both.1]

/-- A new session starts with the word that the heap held. -/
theorem Answers.created_state (answers : Answers request before res session after)
    (creates : request.creates) :
    after.states request.created = some request.surroundings.heapState := by
  cases answers with
  | plain noSetup => exact absurd creates.1 noSetup
  | refused play => exact absurd creates (request.not_creates_of_play play)
  | plays play => exact absurd creates (request.not_creates_of_play play)
  | creates => exact Function.update_self _ _ _
  | attaches attaches => exact absurd creates (request.not_creates_of_attaches attaches)

/-- An error changes nothing and never answers SETUP. -/
theorem Answers.error (answers : Answers request before res session after)
    (failed : res = -1 ∨ res = -2) :
    session = request.named ∧ after = before ∧ request.method ≠ some .SETUP := by
  cases answers with
  | plain noSetup => exact ⟨rfl, rfl, noSetup⟩
  | refused play => exact ⟨rfl, rfl, by rw [play]; decide⟩
  | plays => exact absurd failed (by decide)
  | creates => exact absurd failed (by decide)
  | attaches => exact absurd failed (by decide)

/-- An answered request for the second track found a session. -/
theorem Answers.attached (answers : Answers request before res session after)
    (attaches : request.attaches) : before.states (before.ids request.clientFd) ≠ none := by
  cases answers with
  | plain noSetup => exact absurd attaches.1 noSetup
  | refused play => exact absurd attaches (request.not_attaches_of_play play)
  | plays play => exact absurd attaches (request.not_attaches_of_play play)
  | creates creates => exact absurd creates (request.not_creates_of_attaches attaches)
  | attaches _ state found => simp [found]

/-- A request that names no unknown session finds the session that it ends on. -/
theorem Answers.survives (answers : Answers request before res session after)
    (known : ¬(request.named ≠ [] ∧ before.states request.named = none)) (named : session ≠ []) :
    after.states session ≠ none := by
  cases answers with
  | plain => exact fun missing => known ⟨named, missing⟩
  | refused _ missing => exact absurd ⟨named, missing⟩ known
  | plays => simp
  | creates => simp
  | attaches attaches state found => simp [found]

end Answers

theorem stateOf_addSession_update (manager : SessionManager) (sessionId : List UInt8)
    (session : Session) :
    stateOf (manager.addSession sessionId session) =
      Function.update (stateOf manager) sessionId (some session.state_) := by
  funext other
  by_cases same : other = sessionId
  · rw [same, stateOf_addSession, Function.update_self]
  · rw [stateOf_addSession_of_ne manager session same, Function.update_of_ne same]

theorem sessionId_setSessionIds_update (manager : ClientFdManager) (clientFd : Nat)
    (sessionId : List UInt8) :
    (manager.setSessionIds clientFd sessionId).sessionId =
      Function.update manager.sessionId clientFd sessionId := by
  funext other
  by_cases same : other = clientFd
  · rw [same, ClientFdManager.sessionId_setSessionIds, Function.update_self]
  · rw [ClientFdManager.sessionId_setSessionIds_of_ne manager sessionId same,
      Function.update_of_ne same]

/-- A getter may insert a default, and the view does not change. -/
theorem sessionId_getSessionIds (manager : ClientFdManager) (clientFd : Nat) :
    (manager.getSessionIds clientFd).2.sessionId = manager.sessionId := by
  rw [ClientFdManager.getSessionIds, sessionId_setSessionIds_update, Function.update_eq_self]

section Refinement

variable {server : EpollServer} {event : Event} {request : Request}

/-- What the handler builds and how it finishes give the answer to the request. -/
theorem serves_of_built (found : requestOf server event = some request) {built : Built}
    (result : request.built = some built) {view : SessionView}
    (answers : Answers request server.view built.res built.handler.session_ view)
    (states : stateOf built.handler.sessionManager_ = view.states)
    (ids : built.handler.clientFdManager_.sessionId = view.ids) :
    Serves request (epollServer.stage server event) := by
  rw [stage_request found, serve_built request result]
  obtain ⟨reply, clientFds, after, media, exit⟩ := afterReply_finished
    ⟨built.res, replyText built request.scanned.CSeq⟩ built.handler
  have viewAfter : (server.keep (afterReply ⟨built.res, replyText built request.scanned.CSeq⟩
      built.handler).1).view = view := by
    rw [EpollServer.view, EpollServer.keep]
    simp only [after, clientFds, states, ids]
  apply Serves.answered _ built.handler.session_ _ reply
  · rw [viewAfter, ← states]
    exact media
  · rw [viewAfter, ← states]
    exact exit
  · rw [viewAfter]
    exact answers

/-- A request that creates a session updates both tables. -/
theorem serves_creates (found : requestOf server event = some request)
    (creates : request.creates) : Serves request (epollServer.stage server event) := by
  apply serves_of_built found (built_creates request creates) (Answers.creates creates)
  · apply (stateOf_addSession_update _ _ _).trans
    rw [requestOf_sessions found]
    rfl
  · apply (sessionId_setSessionIds_update _ _ _).trans
    change Function.update request.scanned.handler.clientFdManager_.sessionId _ _ = _
    rw [requestOf_sessionId found]
    rfl

/-- A request for the second track finds the session of its descriptor or is lost. -/
theorem serves_attaches (found : requestOf server event = some request)
    (attaches : request.attaches) : Serves request (epollServer.stage server event) := by
  have result := built_attaches found attaches
  cases joined : server.sessionManager.getSession
      (server.clientFdManager.sessionId request.clientFd) with
  | none =>
      rw [joined] at result
      rw [stage_request found, serve_crash request result]
      refine Serves.lost attaches ((stateOf_eq_none _ _).mpr joined) ?_ rfl
      rw [EpollServer.view, EpollServer.keep]
      simp only [requestOf_sessions found, requestOf_sessionId found]
      rfl
  | some sess =>
      rw [joined] at result
      have state : server.view.states (server.view.ids request.clientFd) = some sess.state_ := by
        change Option.map _ (server.sessionManager.getSession
          (server.clientFdManager.sessionId request.clientFd)) = _
        rw [joined]
        rfl
      apply serves_of_built found result (Answers.attaches attaches sess.state_ state)
      · exact stateOf_addSession_same _ _ _ state
      · apply (sessionId_getSessionIds _ _).trans
        change request.scanned.handler.clientFdManager_.sessionId = _
        rw [requestOf_sessionId found]
        rfl

/-- A PLAY request finds its session or is refused. -/
theorem serves_plays (found : requestOf server event = some request)
    (play : request.method = some .PLAY) : Serves request (epollServer.stage server event) := by
  have sessions := requestOf_sessions found
  have sessionIds := requestOf_sessionId found
  have result := built_play request play
  rw [buildPlay, sessions] at result
  cases joined : server.sessionManager.getSession request.scanned.handler.session_ with
  | none =>
      rw [joined] at result
      apply serves_of_built found result (Answers.refused play ((stateOf_eq_none _ _).mpr joined))
      · rw [sessions]
        rfl
      · exact sessionIds
  | some ss =>
      rw [joined] at result
      have state : server.view.states request.named = some ss.state_ := by
        change Option.map _ (server.sessionManager.getSession request.scanned.handler.session_) = _
        rw [joined]
        rfl
      exact serves_of_built found result (Answers.plays play ss.state_ state)
        (stateOf_addSession_update _ _ _) sessionIds

/-- Every request of every run is lost or answered as the view says. -/
theorem stage_serves (found : requestOf server event = some request) :
    Serves request (epollServer.stage server event) := by
  by_cases setup : request.method = some .SETUP
  · cases track : request.second with
    | false => exact serves_creates found ⟨setup, track⟩
    | true => exact serves_attaches found ⟨setup, track⟩
  · by_cases play : request.method = some .PLAY
    · exact serves_plays found play
    · obtain ⟨sBuf, result⟩ := built_plain request setup play
      apply serves_of_built found result (Answers.plain setup play)
      · rw [requestOf_sessions found]
        rfl
      · exact requestOf_sessionId found

end Refinement

section History

variable {History : Type} (serve : History → Request → Output → History)
  (connect : History → Nat → History)

/-- A history changes with each request and with each new connection. -/
def follow (history : History) (now : ServerStage) : History :=
  match requestOf now.before now.event with
  | some request => serve history request now.output
  | none =>
      match now.event with
      | .accept clientFd =>
          if now.before.isOpen clientFd then history else connect history clientFd
      | _ => history

variable {serve connect} {history : History} {server : EpollServer} {event : Event}

theorem follow_request {request : Request} (found : requestOf server event = some request) :
    follow serve connect history (epollServer.stage server event) =
      serve history request (epollServer.stage server event).output := by
  simp only [follow, Machine.stage_before, Machine.stage_event, found]

/-- Without a request only a new connection on a closed descriptor changes the history. -/
theorem follow_silent (none_found : requestOf server event = none) :
    follow serve connect history (epollServer.stage server event) = history ∨
      ∃ clientFd, follow serve connect history (epollServer.stage server event) =
        connect history clientFd := by
  simp only [follow, Machine.stage_before, Machine.stage_event, none_found]
  cases event with
  | accept clientFd =>
      by_cases already : server.isOpen clientFd = true
      · exact Or.inl (if_pos already)
      · exact Or.inr ⟨clientFd, if_neg already⟩
  | epollError clientFd => exact Or.inl rfl
  | readable clientFd received surroundings => exact Or.inl rfl

end History

/-- An event without a request leaves the view alone. -/
theorem stage_silent_view {server : EpollServer} {event : Event}
    (none_found : requestOf server event = none) :
    (epollServer.stage server event).after.view = server.view := by
  obtain ⟨sessions, clientFds, _⟩ := stage_silent none_found
  rw [EpollServer.view, sessions, clientFds]
  rfl

/-- No session ever has the empty name. -/
theorem stage_unnamed {server : EpollServer} {event : Event}
    (unnamed : server.view.states [] = none) :
    (epollServer.stage server event).after.view.states [] = none := by
  cases found : requestOf server event with
  | none =>
      rw [stage_silent_view found]
      exact unnamed
  | some request =>
      cases stage_serves found with
      | lost _ _ same _ =>
          rw [same]
          exact unnamed
      | answered _ _ answers _ _ _ => exact answers.unnamed unnamed

/-- Each request of the stage is allowed in the view that it finds. -/
def EachRequest {History : Type} (allowed : History → SessionView → Request → Prop)
    (history : History) (now : ServerStage) : Prop :=
  ∀ request, requestOf now.before now.event = some request →
    allowed history now.before.view request

instance {History : Type} (allowed : History → SessionView → Request → Prop)
    [∀ history view request, Decidable (allowed history view request)] (history : History)
    (now : ServerStage) : Decidable (EachRequest allowed history now) :=
  match found : requestOf now.before now.event with
  | none => .isTrue fun _ impossible => absurd (found.symm.trans impossible) (by simp)
  | some request =>
      decidable_of_iff (allowed history now.before.view request)
        ⟨fun one _ foundOther => Option.some.inj (found.symm.trans foundOther) ▸ one,
          fun all => all request found⟩

section Marks

variable {History : Type} (mark : History → Request → Bool → History)
  (keeps : History → SessionView → Prop) (permits : History → Request → Bool → Prop)
  (allowed : History → SessionView → Request → Prop)

/-- The marks change with each answered request. -/
def marked : History → ServerStage → History :=
  follow (fun history request output => mark history request (answered200 output))
    (fun history _ => history)

/-- The marks agree with the view, and media starts only where they permit it. -/
structure Watched (history : History) (now : ServerStage) : Prop where
  keeps : keeps (marked mark history now) now.after.view
  media : ∀ request, requestOf now.before now.event = some request → now.output.media = true →
    permits (marked mark history now) request (answeredError now.output)

/-- The answer keeps the marks, and a session that plays is one they permit. -/
def AnswerWatched (history : History) (request : Request) (res : Int) (session : List UInt8)
    (after : SessionView) : Prop :=
  keeps (mark history request (res = 0)) after ∧
    (after.states session = some .PLAYING →
      permits (mark history request (res = 0)) request (res = -1 ∨ res = -2))

/-- The rule of an allowed request is exact when each answer shows it to be. -/
structure Exact : Prop where
  failed : ∀ history request, mark history request false = history
  lost : ∀ history view request, request.attaches →
    view.states (view.ids request.clientFd) = none → allowed history view request
  answered : ∀ history view request res session after, view.states [] = none →
    keeps history view → Answers request view res session after →
    (AnswerWatched mark keeps permits history request res session after ↔
      allowed history view request)

variable {mark keeps permits allowed} {history : History} {server : EpollServer} {event : Event}
  {request : Request}

theorem eachRequest_iff (found : requestOf server event = some request) :
    EachRequest allowed history (epollServer.stage server event) ↔
      allowed history server.view request := by
  constructor
  · exact fun all => all request found
  · intro one other foundOther
    obtain rfl := Option.some.inj (found.symm.trans foundOther)
    exact one

/-- A stage without a request is watched. -/
theorem watched_silent (inside : keeps history server.view)
    (none_found : requestOf server event = none) :
    Watched mark keeps permits history (epollServer.stage server event) := by
  have same : marked mark history (epollServer.stage server event) = history := by
    rcases follow_silent none_found with same | ⟨clientFd, same⟩
    · exact same
    · exact same
  constructor
  · rw [same, stage_silent_view none_found]
    exact inside
  · exact fun request found => absurd (none_found.symm.trans found) (by simp)

/-- A stage that loses its request is watched. -/
theorem watched_lost (failed : ∀ history request, mark history request false = history)
    (inside : keeps history server.view) (found : requestOf server event = some request)
    (same : (epollServer.stage server event).after.view = server.view)
    (silent : (epollServer.stage server event).output = ⟨none, false, .nullSession⟩) :
    Watched mark keeps permits history (epollServer.stage server event) := by
  have kept : marked mark history (epollServer.stage server event) = history := by
    rw [marked, follow_request found, silent]
    exact failed history request
  constructor
  · rw [kept, same]
    exact inside
  · intro other _ starts
    rw [silent] at starts
    exact absurd starts (by decide)

/-- An answered stage is watched exactly when its answer is. -/
theorem watched_answered (unnamed : server.view.states [] = none)
    (found : requestOf server event = some request) {reply : Reply} {session : List UInt8}
    (answers : Answers request server.view reply.res session
      (epollServer.stage server event).after.view)
    (sent : (epollServer.stage server event).output.reply = some reply)
    (media : (epollServer.stage server event).output.media = true ↔
      session ≠ [] ∧ (epollServer.stage server event).after.view.states session = some .PLAYING) :
    Watched mark keeps permits history (epollServer.stage server event) ↔
      AnswerWatched mark keeps permits history request reply.res session
        (epollServer.stage server event).after.view := by
  have next : marked mark history (epollServer.stage server event) =
      mark history request (reply.res = 0) := by
    rw [marked, follow_request found, answered200, sent, Option.any_some]
  have error : answeredError (epollServer.stage server event).output =
      decide (reply.res = -1 ∨ reply.res = -2) := by
    rw [answeredError, sent, Option.any_some]
  have starts : (epollServer.stage server event).output.media = true ↔
      (epollServer.stage server event).after.view.states session = some .PLAYING := by
    rw [media, and_iff_right_iff_imp]
    intro playing empty
    rw [empty, answers.unnamed unnamed] at playing
    exact absurd playing (by simp)
  constructor
  · rintro ⟨kept, permitted⟩
    rw [next] at kept permitted
    rw [error] at permitted
    exact ⟨kept, fun playing => permitted request found (starts.mpr playing)⟩
  · rintro ⟨kept, permitted⟩
    constructor
    · rw [next]
      exact kept
    · intro other foundOther running
      obtain rfl := Option.some.inj (found.symm.trans foundOther)
      rw [next, error]
      exact permitted (starts.mp running)

/-- An exact rule decides each stage. -/
theorem Exact.watched_iff (exact_rule : Exact mark keeps permits allowed)
    (unnamed : server.view.states [] = none) (inside : keeps history server.view) :
    Watched mark keeps permits history (epollServer.stage server event) ↔
      EachRequest allowed history (epollServer.stage server event) := by
  cases found : requestOf server event with
  | none =>
      constructor
      · exact fun _ request impossible => absurd (found.symm.trans impossible) (by simp)
      · exact fun _ => watched_silent inside found
  | some request =>
      rw [eachRequest_iff found]
      cases stage_serves found with
      | lost attaches missing same silent =>
          constructor
          · exact fun _ => exact_rule.lost history _ request attaches missing
          · exact fun _ => watched_lost exact_rule.failed inside found same silent
      | answered reply session answers sent media exit =>
          rw [watched_answered unnamed found answers sent media]
          exact exact_rule.answered history _ request _ _ _ unnamed inside answers

/-- An exact rule decides each run. -/
theorem Exact.run_iff (exact_rule : Exact mark keeps permits allowed) (events : List Event)
    (history : History) (starts : keeps history EpollServer.start.view) :
    epollServer.Always (marked mark) history EpollServer.start events
        (Watched mark keeps permits) ↔
      epollServer.Always (marked mark) history EpollServer.start events
        (EachRequest allowed) :=
  Machine.always_iff_of_invariant
    (fun history server => server.view.states [] = none ∧ keeps history server.view)
    (fun _ _ _ inside => exact_rule.watched_iff inside.1 inside.2)
    (fun _ _ _ inside each _ =>
      ⟨stage_unnamed inside.1, ((exact_rule.watched_iff inside.1 inside.2).mpr each).keeps⟩)
    events history _ ⟨rfl, starts⟩

end Marks

end FzServer.Server
