import FzServer.Construction.Server.EpollServer

/-
This file describes what one event of the server can do.
-/

namespace FzServer.Server

open Foundation Sessions Rtsp

/-- A request that reached the handler, after the parse loop. -/
structure Request where
  surroundings : Surroundings
  scanned : Scanned

/-- Only bytes on an open descriptor are a request. -/
def requestOf (server : EpollServer) : Event → Option Request
  | .accept _ => none
  | .epollError _ => none
  | .readable clientFd received surroundings =>
      if server.isOpen clientFd = true ∧ received.bytes ≠ [] then
        some ⟨surroundings,
          parseRequest received.bytes surroundings (server.handler clientFd surroundings)⟩
      else none

namespace Request

variable (request : Request)

def clientFd : Nat := request.scanned.handler.clientFd_

def method : Option Method := Method.ofText request.scanned.method

/-- The Session header names this session. It is empty when there is no such header. -/
def named : List UInt8 := request.scanned.handler.session_

/-- The SETUP branch for the second track is selected by the flag of the descriptor. -/
def second : Bool := request.scanned.handler.clientFdManager_.flag request.clientFd

/-- This SETUP request creates a session. -/
def creates : Prop := request.method = some .SETUP ∧ request.second = false

/-- This SETUP request joins the session of its descriptor. -/
def attaches : Prop := request.method = some .SETUP ∧ request.second = true

/-- This is the new identifier of a request that creates a session. -/
def created : List UInt8 := generateSessionId request.surroundings.randomBytes

/-- This is the session that a request for the second track finds. -/
def attached : List UInt8 := request.scanned.handler.clientFdManager_.sessionId request.clientFd

instance : Decidable request.creates := inferInstanceAs (Decidable (_ ∧ _))

instance : Decidable request.attaches := inferInstanceAs (Decidable (_ ∧ _))

theorem not_creates_of_play (play : request.method = some .PLAY) : ¬request.creates := by
  intro creates
  rw [creates.1] at play
  exact absurd play (by decide)

theorem not_attaches_of_play (play : request.method = some .PLAY) : ¬request.attaches := by
  intro attaches
  rw [attaches.1] at play
  exact absurd play (by decide)

theorem not_creates_of_attaches (attaches : request.attaches) : ¬request.creates := by
  intro creates
  exact absurd (creates.2.symm.trans attaches.2) (by decide)

end Request

/-- The status is 200 when the handler reports no error. -/
def answered200 (output : Output) : Bool := output.reply.any fun reply => reply.res = 0

/-- The status is 500 or 501 when the handler reports an error. -/
def answeredError (output : Output) : Bool :=
  output.reply.any fun reply => reply.res = -1 ∨ reply.res = -2

/-- This table keeps only the states of the sessions. -/
def stateOf (manager : SessionManager) (sessionId : List UInt8) : Option SessionStaus :=
  (manager.getSession sessionId).map Session.state_

theorem stateOf_eq_none (manager : SessionManager) (sessionId : List UInt8) :
    stateOf manager sessionId = none ↔ manager.getSession sessionId = none := by
  rw [stateOf, Option.map_eq_none_iff]

@[simp] theorem stateOf_addSession (manager : SessionManager) (sessionId : List UInt8)
    (session : Session) :
    stateOf (manager.addSession sessionId session) sessionId = some session.state_ := by
  simp [stateOf]

theorem stateOf_addSession_of_ne (manager : SessionManager) {sessionId other : List UInt8}
    (session : Session) (different : other ≠ sessionId) :
    stateOf (manager.addSession sessionId session) other = stateOf manager other := by
  rw [stateOf, getSession_addSession_of_ne manager session different, stateOf]

/-- A change that keeps the state keeps the table of states. -/
theorem stateOf_addSession_same (manager : SessionManager) (sessionId : List UInt8)
    (session : Session) (same : stateOf manager sessionId = some session.state_) :
    stateOf (manager.addSession sessionId session) = stateOf manager := by
  funext other
  by_cases different : other = sessionId
  · rw [different, stateOf_addSession, same]
  · exact stateOf_addSession_of_ne manager session different

/-- The parse loop changes the session of the handler and the flag of its descriptor. -/
structure ParseFrame (before after : RtspHandler) : Prop where
  clientFd : after.clientFd_ = before.clientFd_
  clientIp : after.clientIp_ = before.clientIp_
  sessions : after.sessionManager_ = before.sessionManager_
  sessionIds : after.clientFdManager_.avSessionIds_ = before.clientFdManager_.avSessionIds_
  flags : ∀ other, other ≠ before.clientFd_ →
    after.clientFdManager_.avFlags_ other = before.clientFdManager_.avFlags_ other

theorem ParseFrame.refl (handler : RtspHandler) : ParseFrame handler handler :=
  ⟨rfl, rfl, rfl, rfl, fun _ _ => rfl⟩

theorem ParseFrame.trans {before middle after : RtspHandler} (first : ParseFrame before middle)
    (second : ParseFrame middle after) : ParseFrame before after where
  clientFd := second.clientFd.trans first.clientFd
  clientIp := second.clientIp.trans first.clientIp
  sessions := second.sessions.trans first.sessions
  sessionIds := second.sessionIds.trans first.sessionIds
  flags other different :=
    (second.flags other (by rwa [first.clientFd])).trans (first.flags other different)

theorem setAvFlags_frame (handler : RtspHandler) (flag : Bool) :
    ParseFrame handler { handler with
      clientFdManager_ := handler.clientFdManager_.setAvFlags handler.clientFd_ flag } :=
  ⟨rfl, rfl, rfl, rfl, fun _ different => Function.update_of_ne different _ _⟩

theorem setTracks_frame (scanned : Scanned) (line : List UInt8) :
    ParseFrame scanned.handler (scanned.setTracks line).handler := by
  unfold Scanned.setTracks Rtsp.setTracks
  split_ifs
  · exact (setAvFlags_frame scanned.handler false).trans (setAvFlags_frame _ true)
  · exact setAvFlags_frame scanned.handler false
  · exact setAvFlags_frame scanned.handler true
  · exact ParseFrame.refl _

theorem scanRequestLine_handler (line : List UInt8) (scanned : Scanned) :
    (scanRequestLine line scanned).handler = scanned.handler := by
  unfold scanRequestLine
  split
  · rfl
  · split
    · rfl
    · split <;> rfl

/-- Each line keeps the frame. -/
theorem parseLine_frame (scanned : Scanned) (line : List UInt8) :
    ParseFrame scanned.handler (parseLine scanned line).handler := by
  unfold parseLine
  split_ifs
  · rw [scanRequestLine_handler]
    exact setTracks_frame scanned line
  · exact ParseFrame.refl _
  · exact ParseFrame.refl _
  · exact ⟨rfl, rfl, rfl, rfl, fun _ _ => rfl⟩
  · exact ParseFrame.refl _

theorem parseLines_frame (lines : List (List UInt8)) (scanned : Scanned) :
    ParseFrame scanned.handler (lines.foldl parseLine scanned).handler := by
  induction lines generalizing scanned with
  | nil => exact ParseFrame.refl _
  | cons line lines ih => exact (parseLine_frame scanned line).trans (ih _)

/-- The whole parse loop keeps the frame. -/
theorem parseRequest_frame (received : List UInt8) (surroundings : Surroundings)
    (handler : RtspHandler) :
    ParseFrame handler (parseRequest received surroundings handler).handler :=
  parseLines_frame _ (Scanned.init surroundings handler)

section Answer

variable {server : EpollServer} {event : Event} {request : Request}

/-- A request is the bytes on an open descriptor. -/
theorem requestOf_readable (found : requestOf server event = some request) :
    ∃ clientFd received surroundings, event = .readable clientFd received surroundings ∧
      server.isOpen clientFd = true ∧ received.bytes ≠ [] ∧
      request = ⟨surroundings,
        parseRequest received.bytes surroundings (server.handler clientFd surroundings)⟩ := by
  cases event with
  | accept clientFd => exact absurd found (by simp [requestOf])
  | epollError clientFd => exact absurd found (by simp [requestOf])
  | readable clientFd received surroundings =>
      rw [requestOf] at found
      split_ifs at found with bytes
      exact ⟨clientFd, received, surroundings, rfl, bytes.1, bytes.2, (Option.some.inj found).symm⟩

/-- A request arrives on an open descriptor and finds the tables of the server. -/
theorem requestOf_frame (found : requestOf server event = some request) :
    ∃ surroundings, server.isOpen request.clientFd = true ∧
      ParseFrame (server.handler request.clientFd surroundings) request.scanned.handler := by
  obtain ⟨clientFd, received, surroundings, _, connected, _, rfl⟩ := requestOf_readable found
  have frame := parseRequest_frame received.bytes surroundings
    (server.handler clientFd surroundings)
  have same : Request.clientFd ⟨surroundings, parseRequest received.bytes surroundings
      (server.handler clientFd surroundings)⟩ = clientFd := frame.clientFd
  rw [same]
  exact ⟨surroundings, connected, frame⟩

theorem requestOf_sessions (found : requestOf server event = some request) :
    request.scanned.handler.sessionManager_ = server.sessionManager := by
  obtain ⟨_, _, frame⟩ := requestOf_frame found
  exact frame.sessions

theorem requestOf_sessionId (found : requestOf server event = some request) :
    request.scanned.handler.clientFdManager_.sessionId = server.clientFdManager.sessionId := by
  obtain ⟨_, _, frame⟩ := requestOf_frame found
  funext clientFd
  rw [ClientFdManager.sessionId, frame.sessionIds]
  rfl

/-- A stage with a request serves it and keeps the tables that the handler leaves. -/
theorem stage_request (found : requestOf server event = some request) :
    epollServer.stage server event =
      { before := server
        event := event
        after := server.keep (serve request.surroundings request.scanned).1
        output := (serve request.surroundings request.scanned).2 } := by
  obtain ⟨clientFd, received, surroundings, rfl, connected, bytes, rfl⟩ :=
    requestOf_readable found
  simp [Machine.stage, epollServer, EpollServer.step, handleRequest, connected, bytes]

/-- A stage without a request sends nothing and leaves the tables alone. -/
theorem stage_silent (none_found : requestOf server event = none) :
    (epollServer.stage server event).after.sessionManager = server.sessionManager ∧
      (epollServer.stage server event).after.clientFdManager = server.clientFdManager ∧
      (epollServer.stage server event).output.reply = none ∧
      (epollServer.stage server event).output.media = false ∧
      (epollServer.stage server event).output.exit ≠ .nullSession := by
  cases event with
  | accept clientFd =>
      cases already : server.isOpen clientFd <;>
        simp [Machine.stage, epollServer, EpollServer.step, Output.silent, EpollServer.openFd,
          already]
  | epollError clientFd =>
      simp [Machine.stage, epollServer, EpollServer.step, Output.silent, EpollServer.closeFd]
  | readable clientFd received surroundings =>
      cases connected : server.isOpen clientFd with
      | false =>
          simp [Machine.stage, epollServer, EpollServer.step, Output.silent, connected]
      | true =>
          have empty : received.bytes = [] := by
            by_contra bytes
            rw [requestOf, if_pos ⟨connected, bytes⟩] at none_found
            exact absurd none_found (by simp)
          simp [Machine.stage, epollServer, EpollServer.step, handleRequest, connected, empty,
            EpollServer.closeFd, EpollServer.keep, EpollServer.handler]

end Answer

section Build

variable (request : Request)

/-- This is what the handler builds for the request. -/
def Request.built : Option Built :=
  build_string_tcp request.surroundings request.scanned.handler request.scanned.CSeq
    request.scanned.method request.scanned.url

/-- Only SETUP and PLAY write the tables. -/
theorem built_plain (noSetup : request.method ≠ some .SETUP) (noPlay : request.method ≠ some .PLAY) :
    ∃ sBuf, request.built = some {
      res := if request.method = none then -2 else 0
      sBuf := sBuf
      handler := request.scanned.handler } := by
  unfold Request.method at noSetup noPlay
  unfold Request.built build_string_tcp Request.method
  cases kind : Method.ofText request.scanned.method with
  | none => exact ⟨_, rfl⟩
  | some method =>
      rw [kind] at noSetup noPlay
      cases method with
      | SETUP => exact absurd rfl noSetup
      | PLAY => exact absurd rfl noPlay
      | OPTIONS => exact ⟨_, rfl⟩
      | DESCRIBE => exact ⟨_, rfl⟩
      | PAUSE => exact ⟨_, rfl⟩
      | TEARDOWN => exact ⟨_, rfl⟩

theorem built_play (play : request.method = some .PLAY) :
    request.built = some (buildPlay request.scanned.handler request.scanned.CSeq) := by
  unfold Request.method at play
  rw [Request.built, build_string_tcp, play]

theorem built_creates (creates : request.creates) :
    request.built = some (setupFirst request.surroundings request.scanned.handler
      request.scanned.CSeq
      (request.scanned.handler.clientFdManager_.getAvFlags request.clientFd).2) := by
  obtain ⟨setup, first⟩ := creates
  unfold Request.method at setup
  rw [Request.built, build_string_tcp, setup]
  exact if_pos first

theorem serve_built {built : Built} (result : request.built = some built) :
    serve request.surroundings request.scanned =
      afterReply ⟨built.res, replyText built request.scanned.CSeq⟩ built.handler := by
  unfold Request.built at result
  rw [serve, result]

theorem serve_crash (result : request.built = none) :
    serve request.surroundings request.scanned =
      (request.scanned.handler, ⟨none, false, .nullSession⟩) := by
  unfold Request.built at result
  rw [serve, result]

end Build

/-- What follows the reply keeps the descriptors and the states, and the state decides it. -/
structure Finished (reply : Reply) (handler : RtspHandler) (result : RtspHandler × Output) :
    Prop where
  reply : result.2.reply = some reply
  clientFdManager : result.1.clientFdManager_ = handler.clientFdManager_
  states : stateOf result.1.sessionManager_ = stateOf handler.sessionManager_
  media : result.2.media = true ↔
    handler.session_ ≠ [] ∧ stateOf handler.sessionManager_ handler.session_ = some .PLAYING
  exit : result.2.exit = .nullSession ↔
    handler.session_ ≠ [] ∧ stateOf handler.sessionManager_ handler.session_ = none

/-- A session that plays gets its media and is printed. -/
theorem afterReply_playing {reply : Reply} {handler : RtspHandler} {ss : Session}
    (named : handler.session_ ≠ [])
    (found : handler.sessionManager_.getSession handler.session_ = some ss)
    (playing : ss.state_ = .PLAYING) :
    afterReply reply handler =
      ({ handler with
          sessionManager_ := handler.sessionManager_.addSession handler.session_ ss.print },
        ⟨some reply, true, .returned 0⟩) := by
  rw [afterReply, if_neg named, found]
  simp only [playing]

/-- Any other session changes nothing. -/
theorem afterReply_quiet {reply : Reply} {handler : RtspHandler} {ss : Session}
    (named : handler.session_ ≠ [])
    (found : handler.sessionManager_.getSession handler.session_ = some ss)
    (quiet : ss.state_ ≠ .PLAYING) :
    afterReply reply handler = (handler, ⟨some reply, false, .returned 0⟩) := by
  rw [afterReply, if_neg named, found]
  cases status : ss.state_ with
  | PLAYING => exact absurd status quiet
  | NONE => simp only [status]
  | PAUSE => simp only [status]
  | TEARDOWN => simp only [status]
  | unnamed bits => simp only [status]

theorem afterReply_null {reply : Reply} {handler : RtspHandler} (named : handler.session_ ≠ [])
    (missing : handler.sessionManager_.getSession handler.session_ = none) :
    afterReply reply handler = (handler, ⟨some reply, false, .nullSession⟩) := by
  rw [afterReply, if_neg named, missing]

theorem afterReply_finished (reply : Reply) (handler : RtspHandler) :
    Finished reply handler (afterReply reply handler) := by
  by_cases unnamed : handler.session_ = []
  · rw [afterReply, if_pos unnamed]
    exact ⟨rfl, rfl, rfl, by simp [unnamed], by simp [unnamed]⟩
  · cases found : handler.sessionManager_.getSession handler.session_ with
    | none =>
        rw [afterReply_null unnamed found]
        exact ⟨rfl, rfl, rfl, by simp [stateOf, found], by simp [stateOf, found, unnamed]⟩
    | some ss =>
        have state : stateOf handler.sessionManager_ handler.session_ = some ss.state_ := by
          rw [stateOf, found]
          rfl
        by_cases playing : ss.state_ = .PLAYING
        · rw [afterReply_playing unnamed found playing]
          refine ⟨rfl, rfl, ?_, by simp [state, playing, unnamed], by simp [state]⟩
          exact stateOf_addSession_same _ _ _ state
        · rw [afterReply_quiet unnamed found playing]
          exact ⟨rfl, rfl, rfl, by simp [state, playing], by simp [state]⟩

/-- The reply to SETUP is made of its session and of nothing else that the tables hold. -/
def Request.setupReply (request : Request) (session : List UInt8) : List UInt8 :=
  handleCmd_SETUP_TCP (cstring request.surroundings.sBuf) request.scanned.CSeq session

section Setup

variable {server : EpollServer} {event : Event} {request : Request}

/-- A request for the second track looks up the session of its descriptor. -/
theorem built_attaches (found : requestOf server event = some request)
    (attaches : request.attaches) :
    request.built =
      match server.sessionManager.getSession
          (server.clientFdManager.sessionId request.clientFd) with
      | none => none
      | some sess =>
          some {
            res := 0
            sBuf := request.setupReply (server.clientFdManager.sessionId request.clientFd)
            handler := { request.scanned.handler with
              session_ := server.clientFdManager.sessionId request.clientFd
              clientFdManager_ := ((request.scanned.handler.clientFdManager_.getAvFlags
                request.clientFd).2.getSessionIds request.clientFd).2
              sessionManager_ := server.sessionManager.addSession
                (server.clientFdManager.sessionId request.clientFd)
                (sess.setInfo .audio request.surroundings.attr) } } := by
  obtain ⟨setup, second⟩ := attaches
  have taken : buildSetup request.surroundings request.scanned.handler request.scanned.CSeq =
      setupSecond request.surroundings request.scanned.handler request.scanned.CSeq
        (request.scanned.handler.clientFdManager_.getAvFlags request.clientFd).2 :=
    if_neg fun first => absurd (second.symm.trans first) (by decide)
  have named : ((request.scanned.handler.clientFdManager_.getAvFlags
      request.clientFd).2.getSessionIds request.scanned.handler.clientFd_).1 =
        server.clientFdManager.sessionId request.clientFd := by
    change request.scanned.handler.clientFdManager_.sessionId request.clientFd = _
    rw [requestOf_sessionId found]
  unfold Request.method at setup
  rw [Request.built, build_string_tcp, setup]
  simp only [taken, setupSecond, named, requestOf_sessions found]
  rfl

/-- A new session is put in the reply that creates it. -/
theorem creates_reply (found : requestOf server event = some request)
    (creates : request.creates) :
    (epollServer.stage server event).output.reply =
      some ⟨0, request.setupReply request.created⟩ := by
  rw [stage_request found, serve_built request (built_creates request creates)]
  exact (afterReply_finished _ _).reply

/-- The session of the descriptor is put in the reply to a request for the second track. -/
theorem attaches_reply (found : requestOf server event = some request)
    (attaches : request.attaches) {reply : Reply}
    (sent : (epollServer.stage server event).output.reply = some reply) :
    reply = ⟨0, request.setupReply (server.clientFdManager.sessionId request.clientFd)⟩ := by
  have result := built_attaches found attaches
  rw [stage_request found] at sent
  cases joined : server.sessionManager.getSession
      (server.clientFdManager.sessionId request.clientFd) with
  | none =>
      rw [joined] at result
      rw [serve_crash request result] at sent
      exact absurd sent (by simp)
  | some sess =>
      rw [joined] at result
      rw [serve_built request result] at sent
      exact Option.some.inj (sent.symm.trans (afterReply_finished _ _).reply)

end Setup

/-- Every indeterminate value is empty here, and the heap word says `NONE`. -/
def emptySurroundings : Surroundings where
  clientIp_ := []
  randomBytes := Vector.replicate 16 0
  time := 0
  gmtTime := []
  method := []
  url := []
  version := []
  recv_session := []
  localIp := []
  sBuf := []
  heapState := .NONE
  attr := RtspAttr.zero
  pastBuffer := []

/-- This receive call returns one request with the given lines. -/
def receivedLines (lines : List String) : Received where
  bytes := ((lines.flatMap fun line => ascii line ++ crlf) ++ crlf).take BUF_MAX_SIZE
  fits := List.length_take_le _ _

/-- This event delivers one request with the given lines. -/
def sampleRequest (clientFd : Nat) (lines : List String) : Event :=
  .readable clientFd (receivedLines lines) emptySurroundings

end FzServer.Server
