import FzServer.Foundation.Simulation
import FzServer.Proof.Session.ArrayBounds

/-
This file says what the server is for and proves that the server does it.
-/

namespace FzServer.Server

open Foundation Sessions Rtsp Parsing

/-- A client asks this of the server. The text depends on the result and on the session. -/
structure Ask where
  clientFd : Nat
  method : Option Method
  track : Option Bool
  named : List UInt8
  created : List UInt8
  heapState : SessionStaus
  text : Int → List UInt8 → List UInt8

inductive ClientEvent
  | connect (clientFd : Nat)
  | fail (clientFd : Nat)
  | hangUp (clientFd : Nat)
  | ask (ask : Ask)

/-- The directory knows the track and the session that each descriptor set up last. -/
structure Directory where
  isOpen : Nat → Bool
  flags : Nat → Bool
  ids : Nat → List UInt8
  states : List UInt8 → Option SessionStaus

namespace Directory

def start : Directory := ⟨fun _ => false, fun _ => false, fun _ => [], fun _ => none⟩

def close (directory : Directory) (clientFd : Nat) : Directory :=
  { directory with isOpen := Function.update directory.isOpen clientFd false }

/-- The session on which a request ends plays, or is unknown and ends the server. -/
def finish (directory : Directory) (reply : Reply) (session : List UInt8) : Output :=
  if session = [] then ⟨some reply, false, .returned 0⟩
  else
    match directory.states session with
    | none => ⟨some reply, false, .nullSession⟩
    | some state => ⟨some reply, state = .PLAYING, .returned 0⟩

def answer (directory : Directory) (ask : Ask) (res : Int) (session : List UInt8) :
    Directory × Output :=
  (directory, directory.finish ⟨res, ask.text res session⟩ session)

/-- The first track makes a session for the descriptor, and the second track needs it. -/
def setUp (directory : Directory) (ask : Ask) : Directory × Output :=
  if directory.flags ask.clientFd = false then
    answer { directory with
      ids := Function.update directory.ids ask.clientFd ask.created
      states := Function.update directory.states ask.created (some ask.heapState) } ask 0
      ask.created
  else if directory.states (directory.ids ask.clientFd) = none then
    (directory, ⟨none, false, .nullSession⟩)
  else answer directory ask 0 (directory.ids ask.clientFd)

/-- A known session plays from now on. -/
def play (directory : Directory) (ask : Ask) : Directory × Output :=
  if directory.states ask.named = none then answer directory ask (-1) ask.named
  else
    answer { directory with
      states := Function.update directory.states ask.named (some .PLAYING) } ask 0 ask.named

def serve (directory : Directory) (ask : Ask) : Directory × Output :=
  match ask.method with
  | none => answer directory ask (-2) ask.named
  | some .SETUP => setUp directory ask
  | some .PLAY => play directory ask
  | some _ => answer directory ask 0 ask.named

/-- A request may name a track first. -/
def select (directory : Directory) (ask : Ask) : Directory :=
  match ask.track with
  | none => directory
  | some flag => { directory with flags := Function.update directory.flags ask.clientFd flag }

def step (directory : Directory) : ClientEvent → Directory × Output
  | .connect clientFd =>
      ({ directory with isOpen := Function.update directory.isOpen clientFd true }, Output.silent)
  | .fail clientFd => (directory.close clientFd, Output.silent)
  | .hangUp clientFd =>
      if directory.isOpen clientFd then
        (directory.close clientFd, ⟨none, false, .returned (-1)⟩)
      else (directory, Output.silent)
  | .ask ask =>
      if directory.isOpen ask.clientFd then serve (directory.select ask) ask
      else (directory, Output.silent)

end Directory

def directory : Machine Directory ClientEvent Output where
  step := Directory.step
  halts output := output.exit = .nullSession

/-- These are the texts of the builders. An unsupported method builds none. -/
def builtText (surroundings : Surroundings) (CSeq : Int) (url : List UInt8) (method : Option Method)
    (session : List UInt8) : List UInt8 :=
  match method with
  | some .OPTIONS => handleCmd_OPTIONS CSeq
  | some .DESCRIBE =>
      handleCmd_DESCRIBE surroundings.time (cstring surroundings.localIp) CSeq url
  | some .SETUP => handleCmd_SETUP_TCP (cstring surroundings.sBuf) CSeq session
  | some .PLAY => handleCmd_PLAY CSeq session
  | some .PAUSE => handleCmd_PAUSE surroundings.gmtTime CSeq
  | some .TEARDOWN => handleCmd_TEARDOWN CSeq
  | none => []

/-- This is what a handler that has read its request will serve. -/
def askOfScanned (scanned : Scanned) (surroundings : Surroundings) (track : Option Bool) : Ask where
  clientFd := scanned.handler.clientFd_
  method := Method.ofText scanned.method
  track := track
  named := scanned.handler.session_
  created := generateSessionId surroundings.randomBytes
  heapState := surroundings.heapState
  text res session :=
    replyText ⟨res, builtText surroundings scanned.CSeq scanned.url
      (Method.ofText scanned.method) session, scanned.handler⟩ scanned.CSeq

/-- The bytes of a request say what the client asks, whatever the server knows. -/
def askOf (clientFd : Nat) (received : List UInt8) (surroundings : Surroundings) : Ask :=
  let scanned :=
    parseRequest received surroundings (EpollServer.start.handler clientFd surroundings)
  askOfScanned scanned surroundings (scanned.handler.clientFdManager_.avFlags_ clientFd)

def clientEvent : Event → ClientEvent
  | .accept clientFd => .connect clientFd
  | .epollError clientFd => .fail clientFd
  | .readable clientFd received surroundings =>
      if received.bytes = [] then .hangUp clientFd
      else .ask (askOf clientFd received.bytes surroundings)

/-- The directory forgets everything but what a client can notice. -/
def directoryOf (isOpen : Nat → Bool) (sessionManager : SessionManager)
    (clientFdManager : ClientFdManager) : Directory where
  isOpen := isOpen
  flags := clientFdManager.flag
  ids := clientFdManager.sessionId
  states := stateOf sessionManager

def handlerDirectory (isOpen : Nat → Bool) (handler : RtspHandler) : Directory :=
  directoryOf isOpen handler.sessionManager_ handler.clientFdManager_

def serverDirectory (server : EpollServer) : Directory :=
  directoryOf server.isOpen server.sessionManager server.clientFdManager

section Handler

variable (isOpen : Nat → Bool) {handler : RtspHandler}

/-- What follows the reply is decided by the directory and leaves it alone. -/
theorem afterReply_directory (reply : Reply) (handler : RtspHandler) :
    handlerDirectory isOpen (afterReply reply handler).1 = handlerDirectory isOpen handler ∧
      (afterReply reply handler).2 =
        (handlerDirectory isOpen handler).finish reply handler.session_ := by
  have finished := afterReply_finished reply handler
  refine ⟨?_, ?_⟩
  · rw [handlerDirectory, handlerDirectory, directoryOf, directoryOf, finished.states,
      finished.clientFdManager]
  · by_cases unnamed : handler.session_ = []
    · rw [afterReply, if_pos unnamed, Directory.finish, if_pos unnamed]
    · rw [Directory.finish, if_neg unnamed]
      change _ = match stateOf handler.sessionManager_ handler.session_ with
        | none => _
        | some state => _
      cases found : handler.sessionManager_.getSession handler.session_ with
      | none =>
          rw [afterReply_null unnamed found, stateOf, found]
          rfl
      | some ss =>
          have state : stateOf handler.sessionManager_ handler.session_ = some ss.state_ := by
            rw [stateOf, found]
            rfl
          rw [state]
          by_cases playing : ss.state_ = .PLAYING
          · rw [afterReply_playing unnamed found playing]
            simp [playing]
          · rw [afterReply_quiet unnamed found playing]
            simp [playing]

/-- A built reply is answered as the directory says. -/
theorem answer_directory (built : Built) {directory : Directory} {ask : Ask} {CSeq : Int}
    (same : handlerDirectory isOpen built.handler = directory)
    (text : replyText built CSeq = ask.text built.res built.handler.session_) :
    (handlerDirectory isOpen (afterReply ⟨built.res, replyText built CSeq⟩ built.handler).1,
        (afterReply ⟨built.res, replyText built CSeq⟩ built.handler).2) =
      directory.answer ask built.res built.handler.session_ := by
  obtain ⟨after, output⟩ :=
    afterReply_directory isOpen ⟨built.res, replyText built CSeq⟩ built.handler
  rw [after, output, Directory.answer, same, text]

/-- A getter inserts the value that it returns. -/
theorem flag_getAvFlags (manager : ClientFdManager) (clientFd : Nat) :
    (manager.getAvFlags clientFd).2.flag = manager.flag := by
  funext other
  by_cases same : other = clientFd
  · simp [ClientFdManager.getAvFlags, ClientFdManager.setAvFlags, ClientFdManager.flag, same]
  · simp [ClientFdManager.getAvFlags, ClientFdManager.setAvFlags, ClientFdManager.flag, same]

end Handler

section Serve

variable (isOpen : Nat → Bool) (surroundings : Surroundings) (scanned : Scanned)
  (track : Option Bool)

/-- PLAY finds its session in both. -/
theorem play_directory (kind : Method.ofText scanned.method = some .PLAY) :
    let built := buildPlay scanned.handler scanned.CSeq
    let result := afterReply ⟨built.res, replyText built scanned.CSeq⟩ built.handler
    (handlerDirectory isOpen result.1, result.2) =
      (handlerDirectory isOpen scanned.handler).play (askOfScanned scanned surroundings track) := by
  intro built result
  let sBuf := handleCmd_PLAY scanned.CSeq scanned.handler.session_
  have text (res : Int) (handler : RtspHandler) :
      replyText ⟨res, sBuf, handler⟩ scanned.CSeq =
        (askOfScanned scanned surroundings track).text res scanned.handler.session_ := by
    simp only [askOfScanned, kind, builtText, replyText, sBuf]
  rw [Directory.play]
  change _ = if stateOf scanned.handler.sessionManager_ scanned.handler.session_ = none then _
    else _
  cases found : scanned.handler.sessionManager_.getSession scanned.handler.session_ with
  | none =>
      have same : built = ⟨-1, sBuf, scanned.handler⟩ := by
        simp only [built, buildPlay, found, sBuf]
      rw [if_pos ((stateOf_eq_none _ _).mpr found)]
      change (handlerDirectory isOpen (afterReply ⟨built.res, replyText built scanned.CSeq⟩
        built.handler).1, (afterReply _ built.handler).2) = _
      rw [same]
      exact answer_directory isOpen ⟨-1, sBuf, scanned.handler⟩ rfl (text _ _)
  | some ss =>
      have known : ¬stateOf scanned.handler.sessionManager_ scanned.handler.session_ = none := by
        rw [stateOf_eq_none, found]
        exact Option.some_ne_none ss
      have same : built = ⟨0, sBuf, { scanned.handler with
          sessionManager_ := scanned.handler.sessionManager_.addSession scanned.handler.session_
            (ss.setState .PLAYING) }⟩ := by
        simp only [built, buildPlay, found, sBuf]
      rw [if_neg known]
      change (handlerDirectory isOpen (afterReply ⟨built.res, replyText built scanned.CSeq⟩
        built.handler).1, (afterReply _ built.handler).2) = _
      rw [same]
      refine answer_directory isOpen ⟨0, sBuf, _⟩ ?_ (text _ _)
      rw [handlerDirectory, directoryOf, stateOf_addSession_update]
      rfl

/-- SETUP makes or finds its session in both. -/
theorem setUp_directory (kind : Method.ofText scanned.method = some .SETUP) :
    (handlerDirectory isOpen (Rtsp.serve surroundings scanned).1,
        (Rtsp.serve surroundings scanned).2) =
      (handlerDirectory isOpen scanned.handler).setUp
        (askOfScanned scanned surroundings track) := by
  have text (res : Int) (session : List UInt8) (handler : RtspHandler) :
      replyText ⟨res, handleCmd_SETUP_TCP (cstring surroundings.sBuf) scanned.CSeq session,
          handler⟩ scanned.CSeq = (askOfScanned scanned surroundings track).text res session := by
    simp only [askOfScanned, kind, builtText, replyText]
  rw [Rtsp.serve, build_string_tcp, kind, Directory.setUp]
  dsimp only
  change _ = if scanned.handler.clientFdManager_.flag scanned.handler.clientFd_ = false then _
    else if stateOf scanned.handler.sessionManager_
      (scanned.handler.clientFdManager_.sessionId scanned.handler.clientFd_) = none then _ else _
  by_cases first : scanned.handler.clientFdManager_.flag scanned.handler.clientFd_ = false
  · have built : buildSetup surroundings scanned.handler scanned.CSeq =
        some (setupFirst surroundings scanned.handler scanned.CSeq
          (scanned.handler.clientFdManager_.getAvFlags scanned.handler.clientFd_).2) := if_pos first
    rw [built, if_pos first]
    refine answer_directory isOpen (setupFirst surroundings scanned.handler scanned.CSeq _) ?_
      (text _ _ _)
    rw [setupFirst, handlerDirectory, directoryOf, stateOf_addSession_update,
      sessionId_setSessionIds_update]
    congr 1
    exact flag_getAvFlags _ _
  · have built : buildSetup surroundings scanned.handler scanned.CSeq =
        setupSecond surroundings scanned.handler scanned.CSeq
          (scanned.handler.clientFdManager_.getAvFlags scanned.handler.clientFd_).2 := if_neg first
    have named : ((scanned.handler.clientFdManager_.getAvFlags
        scanned.handler.clientFd_).2.getSessionIds scanned.handler.clientFd_).1 =
          scanned.handler.clientFdManager_.sessionId scanned.handler.clientFd_ := rfl
    rw [built, if_neg first]
    cases joined : scanned.handler.sessionManager_.getSession
        (scanned.handler.clientFdManager_.sessionId scanned.handler.clientFd_) with
    | none =>
        simp only [setupSecond, named, joined]
        rw [if_pos ((stateOf_eq_none _ _).mpr joined)]
    | some sess =>
        have known : ¬stateOf scanned.handler.sessionManager_
            (scanned.handler.clientFdManager_.sessionId scanned.handler.clientFd_) = none := by
          rw [stateOf_eq_none, joined]
          exact Option.some_ne_none sess
        simp only [setupSecond, named, joined]
        rw [if_neg known]
        refine answer_directory isOpen ⟨0, _, _⟩ ?_ (text _ _ _)
        rw [handlerDirectory, directoryOf, stateOf_addSession_same _ _ _ (by
          rw [stateOf, joined]
          rfl), sessionId_getSessionIds]
        congr 1
        exact flag_getAvFlags _ _

/-- The handler serves a request as the directory does. -/
theorem serve_directory :
    (handlerDirectory isOpen (Rtsp.serve surroundings scanned).1,
        (Rtsp.serve surroundings scanned).2) =
      (handlerDirectory isOpen scanned.handler).serve
        (askOfScanned scanned surroundings track) := by
  rw [Directory.serve]
  change _ = match Method.ofText scanned.method with
    | none => _
    | some .SETUP => _
    | some .PLAY => _
    | some _ => _
  cases kind : Method.ofText scanned.method with
  | none =>
      rw [Rtsp.serve, build_string_tcp, kind]
      refine answer_directory isOpen ⟨-2, _, scanned.handler⟩ rfl ?_
      simp only [askOfScanned, kind, builtText, replyText, if_true]
  | some method =>
      cases method with
      | PLAY =>
          rw [Rtsp.serve, build_string_tcp, kind]
          exact play_directory isOpen surroundings scanned track kind
      | SETUP => exact setUp_directory isOpen surroundings scanned track kind
      | OPTIONS | DESCRIBE | PAUSE | TEARDOWN =>
          rw [Rtsp.serve, build_string_tcp, kind]
          refine answer_directory isOpen ⟨0, _, scanned.handler⟩ rfl ?_
          simp only [askOfScanned, kind, builtText, replyText]

end Serve

section Parse

variable (server : EpollServer) (clientFd : Nat) (received : List UInt8)
  (surroundings : Surroundings)

theorem flag_setAvFlags (manager : ClientFdManager) (flag : Bool) :
    (manager.setAvFlags clientFd flag).flag = Function.update manager.flag clientFd flag := by
  funext other
  by_cases same : other = clientFd
  · simp [ClientFdManager.setAvFlags, ClientFdManager.flag, same]
  · simp [ClientFdManager.setAvFlags, ClientFdManager.flag, Function.update_of_ne same]

theorem askOf_track :
    (askOf clientFd received surroundings).track =
      lastRead trackOn (receivedText received surroundings) := by
  have read := parseRequest_read received surroundings
    (EpollServer.start.handler clientFd surroundings)
  change (parseRequest received surroundings
    (EpollServer.start.handler clientFd surroundings)).handler.clientFdManager_.avFlags_ clientFd =
      _
  rw [read.handler]
  change (selectTrack _ clientFd ClientFdManager.empty).avFlags_ clientFd = _
  cases lastRead trackOn (receivedText received surroundings) with
  | none => rfl
  | some flag => simp [selectTrack, ClientFdManager.setAvFlags]

/-- The parser reads the same request out of the bytes whatever the tables hold. -/
theorem askOf_eq :
    askOf clientFd received surroundings =
      askOfScanned (parseRequest received surroundings (server.handler clientFd surroundings))
        surroundings (lastRead trackOn (receivedText received surroundings)) := by
  have track := askOf_track clientFd received surroundings
  have alone := parseRequest_read received surroundings
    (EpollServer.start.handler clientFd surroundings)
  have within := parseRequest_read received surroundings (server.handler clientFd surroundings)
  have session : (parseRequest received surroundings
      (EpollServer.start.handler clientFd surroundings)).handler.session_ =
        (parseRequest received surroundings
          (server.handler clientFd surroundings)).handler.session_ := by
    rw [alone.handler, within.handler, alone.recv_session, within.recv_session]
    rfl
  have clientFds : (parseRequest received surroundings
      (EpollServer.start.handler clientFd surroundings)).handler.clientFd_ =
        (parseRequest received surroundings
          (server.handler clientFd surroundings)).handler.clientFd_ := by
    rw [alone.handler, within.handler]
    rfl
  rw [askOf] at track ⊢
  change (askOfScanned _ surroundings _).track = _ at track
  rw [show (parseRequest received surroundings
    (EpollServer.start.handler clientFd surroundings)).handler.clientFdManager_.avFlags_ clientFd =
      _ from track, askOfScanned, askOfScanned, session, clientFds, alone.method, within.method,
    alone.url, within.url, alone.CSeq, within.CSeq]
  rfl

/-- The parser selects the track in the table of the descriptors. -/
theorem parse_directory :
    handlerDirectory server.isOpen
        (parseRequest received surroundings (server.handler clientFd surroundings)).handler =
      (serverDirectory server).select (askOf clientFd received surroundings) := by
  have read := parseRequest_read received surroundings (server.handler clientFd surroundings)
  have fd : (askOf clientFd received surroundings).clientFd = clientFd := by
    rw [askOf_eq server]
    change (parseRequest received surroundings
      (server.handler clientFd surroundings)).handler.clientFd_ = _
    rw [read.handler]
    rfl
  rw [Directory.select, askOf_track, fd, read.handler]
  change directoryOf server.isOpen server.sessionManager
    (selectTrack _ clientFd server.clientFdManager) = _
  cases lastRead trackOn (receivedText received surroundings) with
  | none => rfl
  | some flag =>
      change directoryOf server.isOpen server.sessionManager
        (server.clientFdManager.setAvFlags clientFd flag) = _
      rw [directoryOf, flag_setAvFlags]
      rfl

end Parse

/-- A request is served in the directory as it is in the tables. -/
theorem request_directory (server : EpollServer) (clientFd : Nat) (received : List UInt8)
    (surroundings : Surroundings) :
    let result := Rtsp.serve surroundings
      (parseRequest received surroundings (server.handler clientFd surroundings))
    ((serverDirectory server).select (askOf clientFd received surroundings)).serve
        (askOf clientFd received surroundings) =
      (serverDirectory (server.keep result.1), result.2) := by
  intro result
  rw [← parse_directory, askOf_eq server]
  exact (serve_directory server.isOpen surroundings _ _).symm

theorem askOf_clientFd (clientFd : Nat) (received : List UInt8) (surroundings : Surroundings) :
    (askOf clientFd received surroundings).clientFd = clientFd :=
  (parseRequest_frame received surroundings
    (EpollServer.start.handler clientFd surroundings)).clientFd

/-- What an open descriptor receives is a request or the end of the connection. -/
theorem readable_directory (server : EpollServer) (clientFd : Nat) (received : Received)
    (surroundings : Surroundings) :
    Directory.step (serverDirectory server)
        (clientEvent (.readable clientFd received surroundings)) =
      (serverDirectory (server.step (.readable clientFd received surroundings)).1,
        (server.step (.readable clientFd received surroundings)).2) := by
  by_cases connected : server.isOpen clientFd = true
  · have known : (serverDirectory server).isOpen clientFd = true := connected
    have taken : ¬server.isOpen clientFd = false := by rw [connected]; decide
    by_cases ended : received.bytes = []
    · rw [clientEvent, if_pos ended, Directory.step, if_pos known]
      simp only [EpollServer.step, if_neg taken, handleRequest, if_pos ended]
      rfl
    · rw [clientEvent, if_neg ended, Directory.step, askOf_clientFd, if_pos known,
        request_directory]
      simp only [EpollServer.step, if_neg taken, handleRequest, if_neg ended]
  · have unknown : ¬(serverDirectory server).isOpen clientFd = true := connected
    have silent : server.step (.readable clientFd received surroundings) =
        (server, Output.silent) := if_pos (Bool.eq_false_iff.mpr connected)
    rw [silent]
    by_cases ended : received.bytes = []
    · rw [clientEvent, if_pos ended, Directory.step, if_neg unknown]
    · rw [clientEvent, if_neg ended, Directory.step, askOf_clientFd, if_neg unknown]

/-- A connection that is already open stays open. -/
theorem accept_directory (server : EpollServer) (clientFd : Nat) :
    Directory.step (serverDirectory server) (.connect clientFd) =
      (serverDirectory (server.step (.accept clientFd)).1, Output.silent) := by
  change _ = (serverDirectory (if server.isOpen clientFd = true then server else _), _)
  by_cases already : server.isOpen clientFd = true
  · have same : Function.update server.isOpen clientFd true = server.isOpen := by
      rw [← already, Function.update_eq_self]
    rw [if_pos already]
    change ({ serverDirectory server with
      isOpen := Function.update server.isOpen clientFd true }, _) = _
    rw [same]
    rfl
  · rw [if_neg already]
    rfl

/-- The tables of the server simulate the directory. -/
def serverSimulation : Simulation epollServer directory where
  state := serverDirectory
  event := clientEvent
  halts _ := rfl
  step server
    | .accept clientFd => accept_directory server clientFd
    | .epollError _ => rfl
    | .readable clientFd received surroundings =>
        readable_directory server clientFd received surroundings

/-- Over every run that fits its arrays the server gives the answers of the directory, byte for
byte. -/
theorem epollServer_refines (events : List Event) (fits : RunFits events) :
    RunInArrays events ∧
      (epollServer.run EpollServer.start events).map Stage.output =
        (directory.run Directory.start (events.map clientEvent)).map Stage.output :=
  ⟨run_inArrays fits, (serverSimulation.outputs EpollServer.start events).symm⟩

/-- A client sets up a session, breaks off and names it on its next connection. -/
def reconnection : List Event :=
  [.accept 5, sampleRequest 5 ["SETUP rtsp://h/track0 RTSP/1.0", "CSeq: 3"],
    .epollError 5, .accept 5, sampleRequest 5 ["PLAY rtsp://h/ RTSP/1.0", "CSeq: 4",
      "Session: 00000000000000000000000000000000"]]

theorem epollServer_refines_reconnection :
    RunInArrays reconnection ∧
      (epollServer.run EpollServer.start reconnection).map Stage.output =
        (directory.run Directory.start (reconnection.map clientEvent)).map Stage.output :=
  epollServer_refines reconnection (by decide +kernel)

end FzServer.Server
