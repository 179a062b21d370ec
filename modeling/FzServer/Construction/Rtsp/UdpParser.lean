import FzServer.Construction.Rtsp.UdpHandler

/-
This file reads one request of a client that receives its tracks over UDP, and answers it.
-/

namespace FzServer.Rtsp

open Foundation Sessions Utility

/-- The parser has two more local variables than the one for TCP. -/
structure UdpScanned where
  scanned : Scanned
  clientRtpPort : Int
  clientRtcpPort : Int

def UdpScanned.init (surroundings : Surroundings) (handler : RtspHandler) : UdpScanned where
  scanned := Scanned.init surroundings handler
  clientRtpPort := -1
  clientRtcpPort := -1

/-- The blank of the format skips any blanks. The second number may be missing. -/
def scanClientPorts (line : List UInt8) : Option (Int × Option Int) :=
  (scanLiteral (ascii "Transport:") line).bind fun blanks =>
    (scanLiteral (ascii "RTP/AVP/UDP;unicast;client_port=") (blanks.dropWhile isspace)).bind
      fun ports =>
        (scanInt ports).map fun clientRtpPort =>
          (clientRtpPort, (scanLiteral (ascii "-") (afterInt ports)).bind scanInt)

/-- A conversion that fails ends the scan, and the earlier one keeps its effect. -/
def UdpScanned.setPorts (udp : UdpScanned) (line : List UInt8) : UdpScanned :=
  match scanClientPorts line with
  | none => udp
  | some (clientRtpPort, clientRtcpPort) =>
      { udp with clientRtpPort, clientRtcpPort := clientRtcpPort.getD udp.clientRtcpPort }

/-- The first test that succeeds classifies the line. -/
def parseUdpLine (udp : UdpScanned) (line : List UInt8) : UdpScanned :=
  if hasKeyword line then { udp with scanned := scanRequestLine line (udp.scanned.setTracks line) }
  else if strstr line (ascii "CSeq") then
    { udp with scanned := { udp.scanned with CSeq := (scanCSeq line).getD udp.scanned.CSeq } }
  else if ascii "Transport:" <+: line then udp.setPorts line
  else if strstr line (ascii "Session") then { udp with scanned := udp.scanned.setSession line }
  else udp

/-- This is the loop over the lines of the buffer. -/
def parseUdpRequest (received : List UInt8) (surroundings : Surroundings)
    (handler : RtspHandler) : UdpScanned :=
  (strtok 0x0A (bufferText received surroundings)).foldl parseUdpLine
    (UdpScanned.init surroundings handler)

/-- The handler has taken the track and the session already. -/
def UdpScanned.request (udp : UdpScanned) : UdpRequest where
  method := udp.scanned.method
  url := udp.scanned.url
  CSeq := udp.scanned.CSeq
  track := none
  session := none
  clientRtpPort := udp.clientRtpPort
  clientRtcpPort := udp.clientRtcpPort

/-- A handler that comes to its end has an output, and the other two results end the server. -/
inductive UdpResult
  | output (output : Output)
  | thrown (exception : SystemError)
  | searching

/-- This is what follows the parse loop of `interact_rtsp`. -/
def serveUdp (environment : UdpSurroundings) (read : UdpScanned) (portManager : PortManager) :
    UdpHandler × UdpResult :=
  let udp : UdpHandler := ⟨read.scanned.handler, portManager⟩
  match build_string read.request environment udp with
  | .built ⟨res, sBuf, ⟨handler, portManager⟩⟩ =>
      let after := afterReply ⟨res, replyText ⟨res, sBuf, handler⟩ read.scanned.CSeq⟩ handler
      (⟨after.1, portManager⟩, .output after.2)
  | .nullSession => (udp, .output ⟨none, false, .nullSession⟩)
  | .thrown exception => (udp, .thrown exception)
  | .searching => (udp, .searching)

end FzServer.Rtsp
