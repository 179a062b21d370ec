import FzServer.Construction.Rtsp.RequestParser
import FzServer.Construction.Rtsp.RtspResponse
import FzServer.Construction.Session.GenerateSession

/-
This file answers one RTSP request.
-/

namespace FzServer.Rtsp

open Foundation Sessions

inductive Method
  | OPTIONS
  | DESCRIBE
  | SETUP
  | PLAY
  | PAUSE
  | TEARDOWN
  deriving DecidableEq

def Method.text : Method → List UInt8
  | OPTIONS => ascii "OPTIONS"
  | DESCRIBE => ascii "DESCRIBE"
  | SETUP => ascii "SETUP"
  | PLAY => ascii "PLAY"
  | PAUSE => ascii "PAUSE"
  | TEARDOWN => ascii "TEARDOWN"

/-- The comparisons run in this order, and no two names are equal. -/
def Method.ofText (text : List UInt8) : Option Method :=
  [OPTIONS, DESCRIBE, SETUP, PLAY, PAUSE, TEARDOWN].find? fun method => method.text = text

/-- The result -1 leads to status 500, and the result -2 leads to status 501. -/
structure Built where
  res : Int
  sBuf : List UInt8
  handler : RtspHandler

section Build

variable (surroundings : Surroundings) (handler : RtspHandler) (CSeq : Int)

/-- The first track creates a session with a new identifier. -/
def setupFirst (clientFdManager : ClientFdManager) : Built :=
  let session_ := generateSessionId surroundings.randomBytes
  let sess := (Session.create surroundings.heapState handler.clientFd_ handler.clientIp_ .NONE).setInfo
    .video surroundings.attr
  { res := 0
    sBuf := handleCmd_SETUP_TCP (cstring surroundings.sBuf) CSeq session_
    handler := { handler with
      session_
      clientFdManager_ := clientFdManager.setSessionIds handler.clientFd_ session_
      sessionManager_ := handler.sessionManager_.addSession session_ sess } }

/-- The second track joins the session of the descriptor. No value stands for a null session. -/
def setupSecond (clientFdManager : ClientFdManager) : Option Built :=
  let session_ := clientFdManager.getSessionIds handler.clientFd_
  match handler.sessionManager_.getSession session_.1 with
  | none => none
  | some sess =>
      some {
        res := 0
        sBuf := handleCmd_SETUP_TCP (cstring surroundings.sBuf) CSeq session_.1
        handler := { handler with
          session_ := session_.1
          clientFdManager_ := session_.2
          sessionManager_ :=
            handler.sessionManager_.addSession session_.1 (sess.setInfo .audio surroundings.attr) } }

/-- The three tests of the flag agree, because no statement between them writes it. -/
def buildSetup : Option Built :=
  let flag := handler.clientFdManager_.getAvFlags handler.clientFd_
  if flag.1 = false then some (setupFirst surroundings handler CSeq flag.2)
  else setupSecond surroundings handler CSeq flag.2

/-- The reply is written before the session is found. -/
def buildPlay : Built :=
  let sBuf := handleCmd_PLAY CSeq handler.session_
  match handler.sessionManager_.getSession handler.session_ with
  | none => { res := -1, sBuf, handler }
  | some ss =>
      { res := 0
        sBuf
        handler := { handler with
          sessionManager_ :=
            handler.sessionManager_.addSession handler.session_ (ss.setState .PLAYING) } }

/-- No value stands for a read through a null session. -/
def build_string_tcp (method url : List UInt8) : Option Built :=
  match Method.ofText method with
  | some .OPTIONS => some { res := 0, sBuf := handleCmd_OPTIONS CSeq, handler }
  | some .DESCRIBE =>
      some {
        res := 0
        sBuf := handleCmd_DESCRIBE surroundings.time (cstring surroundings.localIp) CSeq url
        handler }
  | some .SETUP => buildSetup surroundings handler CSeq
  | some .PLAY => some (buildPlay handler CSeq)
  | some .PAUSE => some { res := 0, sBuf := handleCmd_PAUSE surroundings.gmtTime CSeq, handler }
  | some .TEARDOWN => some { res := 0, sBuf := handleCmd_TEARDOWN CSeq, handler }
  | none => some { res := -2, sBuf := cstring surroundings.sBuf, handler }

end Build

/-- A built reply is sent, and an error is sent in its place. -/
def replyText (built : Built) (CSeq : Int) : List UInt8 :=
  if built.res = -1 then
    generateRtspResponse .InternalServerError CSeq
      (ascii "Server: " ++ ascii RTSP_SERVER_NAME ++ crlf) (ascii ERRPR_NOT_FOUND)
  else if built.res = -2 then
    generateRtspResponse .NotImplemented CSeq (ascii "Server: MyRtspServer/1.0\r\n")
      (ascii "notImplemented error.")
  else built.sBuf

/-- These are the bytes that one request gets and the tables that it leaves. -/
structure Interaction where
  text : List UInt8
  sessionManager_ : SessionManager
  clientFdManager_ : ClientFdManager

/-- No value stands for a read through a null session. -/
def interact_rtsp_tcp (received : List UInt8) (surroundings : Surroundings)
    (handler : RtspHandler) : Option Interaction :=
  let scanned := parseRequest received surroundings handler
  (build_string_tcp surroundings scanned.handler scanned.CSeq scanned.method scanned.url).map
    fun built =>
      ⟨replyText built scanned.CSeq, built.handler.sessionManager_, built.handler.clientFdManager_⟩

structure Reply where
  res : Int
  text : List UInt8
  deriving DecidableEq

inductive Exit
  | returned (code : Int)
  | nullSession
  deriving DecidableEq

/-- The flag `media` says that the handler started both media threads. -/
structure Output where
  reply : Option Reply
  media : Bool
  exit : Exit

/-- The state of the session decides what follows the reply. -/
def afterReply (reply : Reply) (handler : RtspHandler) : RtspHandler × Output :=
  if handler.session_ = [] then (handler, ⟨some reply, false, .returned 0⟩)
  else
    match handler.sessionManager_.getSession handler.session_ with
    | none => (handler, ⟨some reply, false, .nullSession⟩)
    | some ss =>
        match ss.state_ with
        | .PLAYING =>
            let printed := handler.sessionManager_.addSession handler.session_ ss.print
            ({ handler with sessionManager_ := printed }, ⟨some reply, true, .returned 0⟩)
        | _ => (handler, ⟨some reply, false, .returned 0⟩)

/-- This is what follows the parse loop. -/
def serve (surroundings : Surroundings) (scanned : Scanned) : RtspHandler × Output :=
  match build_string_tcp surroundings scanned.handler scanned.CSeq scanned.method scanned.url with
  | none => (scanned.handler, ⟨none, false, .nullSession⟩)
  | some built => afterReply ⟨built.res, replyText built scanned.CSeq⟩ built.handler

/-- The receive call that reports the end of the connection gives no bytes. -/
def handleRequest (received : Received) (surroundings : Surroundings) (handler : RtspHandler) :
    RtspHandler × Output :=
  if received.bytes = [] then (handler, ⟨none, false, .returned (-1)⟩)
  else serve surroundings (parseRequest received.bytes surroundings handler)

end FzServer.Rtsp
