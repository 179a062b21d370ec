import FzServer.Construction.Media.SendH264Aac
import FzServer.Construction.Rtsp.RtspHandler

/-
This file answers one request and waits for the media threads that it starts.
-/

namespace FzServer.Rtsp

open Foundation Sessions Media

/-- Behind both joins the function returns 0. -/
def sendH264AacOverTcpResult (source : MediaSource) : Option (Int × MediaRun) :=
  (sendH264AacOverTcp source).map fun run => (0, run)

/-- The record keeps the run of the media threads. -/
structure Handled where
  handler : RtspHandler
  output : Output
  media : Option MediaRun

/-- An error of the media function ends the request before the session is printed. -/
def afterReplyOver (source : MediaSource) (reply : Reply) (handler : RtspHandler) :
    Option Handled :=
  if handler.session_ = [] then some ⟨handler, ⟨some reply, false, .returned 0⟩, none⟩
  else
    match handler.sessionManager_.getSession handler.session_ with
    | none => some ⟨handler, ⟨some reply, false, .nullSession⟩, none⟩
    | some ss =>
        match ss.state_ with
        | .PLAYING =>
            (sendH264AacOverTcpResult source).map fun joined =>
              if joined.1 = -1 then
                ⟨handler, ⟨some reply, true, .returned (-1)⟩, some joined.2⟩
              else
                let printed := handler.sessionManager_.addSession handler.session_ ss.print
                ⟨{ handler with sessionManager_ := printed }, ⟨some reply, true, .returned 0⟩,
                  some joined.2⟩
        | _ => some ⟨handler, ⟨some reply, false, .returned 0⟩, none⟩

def serveOver (source : MediaSource) (surroundings : Surroundings) (scanned : Scanned) :
    Option Handled :=
  match build_string_tcp surroundings scanned.handler scanned.CSeq scanned.method scanned.url with
  | none => some ⟨scanned.handler, ⟨none, false, .nullSession⟩, none⟩
  | some built => afterReplyOver source ⟨built.res, replyText built scanned.CSeq⟩ built.handler

/-- No value stands for a request whose media threads do not end. -/
def handleRequestOver (source : MediaSource) (received : Received) (surroundings : Surroundings)
    (handler : RtspHandler) : Option Handled :=
  if received.bytes = [] then some ⟨handler, ⟨none, false, .returned (-1)⟩, none⟩
  else serveOver source surroundings (parseRequest received.bytes surroundings handler)

end FzServer.Rtsp
