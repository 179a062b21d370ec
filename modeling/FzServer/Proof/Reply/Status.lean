import FzServer.Construction.Rtsp.RtspHandler

/-
This file reads the status off each text that the handler sends.
-/

namespace FzServer.Replies

open Foundation Rtsp

/-- The status line starts with the protocol and the status code. -/
def statusOf (text : List UInt8) : List UInt8 := text.take 12

/-- This text takes the place of a reply that failed. -/
def serverError (CSeq : Int) : List UInt8 :=
  generateRtspResponse .InternalServerError CSeq
    (ascii "Server: " ++ ascii RTSP_SERVER_NAME ++ crlf) (ascii ERRPR_NOT_FOUND)

/-- This text answers a method that the handler does not know. -/
def notImplemented (CSeq : Int) : List UInt8 :=
  generateRtspResponse .NotImplemented CSeq (ascii "Server: MyRtspServer/1.0\r\n")
    (ascii "notImplemented error.")

variable (CSeq : Int) (session_ : List UInt8)

@[simp] theorem statusOf_serverError : statusOf (serverError CSeq) = ascii "RTSP/1.0 500" := rfl

@[simp] theorem statusOf_notImplemented :
    statusOf (notImplemented CSeq) = ascii "RTSP/1.0 501" := rfl

@[simp] theorem statusOf_OPTIONS : statusOf (handleCmd_OPTIONS CSeq) = ascii "RTSP/1.0 200" := rfl

@[simp] theorem statusOf_DESCRIBE (time : Int) (localIp url : List UInt8) :
    statusOf (handleCmd_DESCRIBE time localIp CSeq url) = ascii "RTSP/1.0 200" := rfl

/-- A reply to SETUP has a status for two numbers only. -/
theorem statusOf_SETUP (sBuf : List UInt8) (number : CSeq = 3 ∨ CSeq = 4) :
    statusOf (handleCmd_SETUP_TCP sBuf CSeq session_) = ascii "RTSP/1.0 200" := by
  rcases number with rfl | rfl <;> rfl

@[simp] theorem statusOf_PLAY :
    statusOf (handleCmd_PLAY CSeq session_) = ascii "RTSP/1.0 200" := rfl

@[simp] theorem statusOf_PAUSE (gmtTime : List UInt8) :
    statusOf (handleCmd_PAUSE gmtTime CSeq) = ascii "RTSP/1.0 200" := rfl

@[simp] theorem statusOf_TEARDOWN : statusOf (handleCmd_TEARDOWN CSeq) = ascii "RTSP/1.0 200" := rfl

end FzServer.Replies
