import FzServer.Construction.Rtsp.RtspHandler
import FzServer.Construction.Utility.PortManager

/-
This file answers one RTSP request of a client that receives its tracks over UDP.
-/

namespace FzServer.Rtsp

open Foundation Sessions Utility

/-- These are the values that the parser reads from the lines of a request. -/
structure UdpRequest where
  method : List UInt8
  url : List UInt8
  CSeq : Int
  track : Option Bool
  session : Option (List UInt8)
  clientRtpPort : Int
  clientRtcpPort : Int

/-- The operating system also answers the calls for the two server sockets, which are to be bound to
the drawn ports. -/
structure UdpSurroundings where
  surroundings : Surroundings
  attempts : List Attempt
  serverRtpSockfd : Int
  serverRtcpSockfd : Int
  rtpBound : Bool
  rtcpBound : Bool

/-- These server sockets are open when a SETUP request returns, for no path of it closes one. -/
def UdpSurroundings.openSockets (environment : UdpSurroundings) : List Int :=
  [environment.serverRtpSockfd, environment.serverRtcpSockfd].filter fun sockfd => 0 ≤ sockfd

structure UdpHandler where
  handler : RtspHandler
  portManager_ : PortManager

structure UdpBuilt where
  res : Int
  sBuf : List UInt8
  handler : UdpHandler

/-- The last three outcomes give no reply. -/
inductive UdpOutcome
  | built (built : UdpBuilt)
  | nullSession
  | thrown (exception : SystemError)
  | searching

def handleCmd_SETUP (CSeq : Int) (clientRtpPort clientRtcpPort : Int) (ports : PortPair)
    (session_ : List UInt8) : List UInt8 :=
  ascii "RTSP/1.0 200 OK \r\n" ++ ascii "CSeq: " ++ decimal CSeq ++ crlf ++
    ascii "Transport: RTP/AVP;unicast;client_port=" ++ decimal clientRtpPort ++ ascii "-" ++
    decimal clientRtcpPort ++ ascii ";server_port=" ++ decimal ports.1.toNat ++ ascii "-" ++
    decimal ports.2.toNat ++ crlf ++ ascii "Session: " ++ session_ ++ crlf ++ crlf

section Build

variable (request : UdpRequest) (environment : UdpSurroundings)

/-- The first track gets a new identifier, and the second one that of the descriptor. -/
def nameSession (handler : RtspHandler) : RtspHandler :=
  let flag := handler.clientFdManager_.getAvFlags handler.clientFd_
  if flag.1 = false then
    let session_ := generateSessionId environment.surroundings.randomBytes
    { handler with
      session_
      clientFdManager_ := flag.2.setSessionIds handler.clientFd_ session_ }
  else
    let session_ := flag.2.getSessionIds handler.clientFd_
    { handler with session_ := session_.1, clientFdManager_ := session_.2 }

def serverAttr (ports : PortPair) : RtspAttr where
  clientRtpPort_ := request.clientRtpPort
  clientRtcpPort_ := request.clientRtcpPort
  serverRtpPort_ := ports.1.toNat
  serverRtcpPort_ := ports.2.toNat
  serverRtpSockfd_ := environment.serverRtpSockfd
  serverRtcpSockfd_ := environment.serverRtcpSockfd

/-- The table gets the session together with its track. No value stands for a null session. -/
def storeTrack (attr : RtspAttr) (handler : RtspHandler) : Option RtspHandler :=
  let flag := handler.clientFdManager_.getAvFlags handler.clientFd_
  let store (sess : Session) (track : TrackName) : RtspHandler :=
    { handler with
      clientFdManager_ := flag.2
      sessionManager_ :=
        handler.sessionManager_.addSession handler.session_ (sess.setInfo track attr) }
  if flag.1 = false then
    let sess := Session.create environment.surroundings.heapState handler.clientFd_
      handler.clientIp_ .NONE
    some (store sess .video)
  else (handler.sessionManager_.getSession handler.session_).map fun sess => store sess .audio

/-- A failure behind the allocation of the ports leaves them allocated. -/
def buildUdpSetup (udp : UdpHandler) : UdpOutcome :=
  let handler := nameSession environment udp.handler
  match udp.portManager_.generatePorts environment.attempts with
  | none => .searching
  | some (.error exception) => .thrown exception
  | some (.ok (ports, portManager_)) =>
      let sBuf := handleCmd_SETUP request.CSeq request.clientRtpPort request.clientRtcpPort ports
        handler.session_
      if environment.serverRtpSockfd < 0 ∨ environment.serverRtcpSockfd < 0 then
        .built ⟨-1, sBuf, handler, portManager_⟩
      else if environment.rtpBound = false ∨ environment.rtcpBound = false then
        .built ⟨-1, sBuf, handler, portManager_⟩
      else
        match storeTrack environment (serverAttr request environment ports) handler with
        | none => .nullSession
        | some stored => .built ⟨0, sBuf, stored, portManager_⟩

/-- The other methods have the code of the TCP handler. -/
def build_string (udp : UdpHandler) : UdpOutcome :=
  if Method.ofText request.method = some .SETUP then buildUdpSetup request environment udp
  else
    match build_string_tcp environment.surroundings udp.handler request.CSeq request.method
      request.url with
    | none => .nullSession
    | some built => .built ⟨built.res, built.sBuf, built.handler, udp.portManager_⟩

end Build

end FzServer.Rtsp
