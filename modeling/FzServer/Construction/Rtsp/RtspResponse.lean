import FzServer.Foundation.CString

/-
This file gives the texts that the RTSP handler sends.
-/

namespace FzServer.Rtsp

open Foundation

inductive RtspStatusCode
  | OK
  | BadRequest
  | Unauthorized
  | NotFound
  | InternalServerError
  | NotImplemented
  deriving DecidableEq

def RtspStatusCode.value : RtspStatusCode → Int
  | OK => 200
  | BadRequest => 400
  | Unauthorized => 401
  | NotFound => 404
  | InternalServerError => 500
  | NotImplemented => 501

def RtspStatusCode.reason : RtspStatusCode → String
  | OK => "OK"
  | BadRequest => "Bad Request"
  | Unauthorized => "Unauthorized"
  | NotFound => "Not Found"
  | InternalServerError => "Internal Server Error"
  | NotImplemented => "Not Implemented"

def crlf : List UInt8 := [0x0D, 0x0A]

def RTSP_SERVER_NAME : String := "MyRtspServer/1.0"

def ERRPR_NOT_FOUND : String := "The requested resource was not found"

/-- The header text gets a line break unless it ends with one. -/
def headerLines (headers : List UInt8) : List UInt8 :=
  if headers = [] then [] else if crlf <:+ headers then headers else headers ++ crlf

def generateRtspResponse (code : RtspStatusCode) (cseq : Int) (headers body : List UInt8) :
    List UInt8 :=
  ascii "RTSP/1.0 " ++ decimal code.value ++ ascii " " ++ ascii code.reason ++ crlf ++
    ascii "CSeq: " ++ decimal cseq ++ crlf ++ headerLines headers ++ crlf ++ body

/-- The enumeration holds every `int`, and six of them have a name. -/
def reasonPhrase (code : Int) : String :=
  if code = 200 then "OK"
  else if code = 400 then "Bad Request"
  else if code = 401 then "Unauthorized"
  else if code = 404 then "Not Found"
  else if code = 500 then "Internal Server Error"
  else if code = 501 then "Not Implemented"
  else "Unknown Status"

/-- This is the text for any value of the enumeration. -/
def generateResponse (code cseq : Int) (headers body : List UInt8) : List UInt8 :=
  ascii "RTSP/1.0 " ++ decimal code ++ ascii " " ++ ascii (reasonPhrase code) ++ crlf ++
    ascii "CSeq: " ++ decimal cseq ++ crlf ++ headerLines headers ++ crlf ++ body

theorem generateResponse_value (code : RtspStatusCode) :
    generateResponse code.value = generateRtspResponse code := by
  cases code <;> rfl

def handleCmd_OPTIONS (CSeq : Int) : List UInt8 :=
  ascii "RTSP/1.0 200 OK \r\n" ++ ascii "CSeq: " ++ decimal CSeq ++ crlf ++
    ascii "Public: OPTIONS, DESCRIBE, SETUP, PLAY, PAUSE, TEARDOWN\r\n" ++ crlf

/-- The address stays indeterminate unless the URL starts with the scheme and a host. -/
def scanLocalIp (url localIp : List UInt8) : List UInt8 :=
  match scanLiteral (ascii "rtsp://") url with
  | none => localIp
  | some rest =>
      let host := rest.takeWhile (· ≠ 0x3A)
      if host = [] then localIp else host

def sessionDescription (time : Int) (localIp : List UInt8) : List UInt8 :=
  ascii "v=0\r\n" ++ ascii "o=- 9" ++ decimal time ++ ascii " 1 IN IP4 " ++ localIp ++ crlf ++
    ascii "t=0 0\r\n" ++ ascii "a=control:*\r\n" ++
    ascii "m=video 0 RTP/AVP 96\r\n" ++ ascii "a=rtpmap:96 H264/90000\r\n" ++
    ascii "a=control:track0\r\n" ++ ascii "m=audio 0 RTP/AVP 97\r\n" ++
    ascii "a=rtpmap:97 mpeg4-generic/44100/2\r\n" ++
    ascii "a=fmtp:97 profile-level-id=1;mode=AAC-hbr;sizelength=13;indexlength=3;" ++
    ascii "indexdeltalength=3;config=1210;\r\n" ++ ascii "a=control:track1\r\n"

/-- The TCP handler calls the description for UDP too. -/
def handleCmd_DESCRIBE (time : Int) (localIp : List UInt8) (CSeq : Int) (url : List UInt8) :
    List UInt8 :=
  let sdp := sessionDescription time (scanLocalIp url localIp)
  ascii "RTSP/1.0 200 OK\r\nCSeq: " ++ decimal CSeq ++ crlf ++ ascii "Content-Base: " ++ url ++
    crlf ++ ascii "Content-type: application/sdp\r\n" ++ ascii "Content-length: " ++
    decimal sdp.length ++ crlf ++ crlf ++ sdp

/-- Any other sequence number leaves the reply buffer as the allocator gave it. -/
def handleCmd_SETUP_TCP (sBuf : List UInt8) (CSeq : Int) (session_ : List UInt8) : List UInt8 :=
  if CSeq = 3 then
    ascii "RTSP/1.0 200 OK \r\n" ++ ascii "CSeq: " ++ decimal CSeq ++ crlf ++
      ascii "Transport: RTP/AVP/TCP;unicast;interleaved=0-1\r\n" ++
      ascii "Session: " ++ session_ ++ crlf ++ crlf
  else if CSeq = 4 then
    ascii "RTSP/1.0 200 OK \r\n" ++ ascii "CSeq: " ++ decimal CSeq ++ crlf ++
      ascii "Transport: RTP/AVP/TCP;unicast;interleaved=2-3\r\n" ++
      ascii "Session: " ++ session_ ++ crlf ++ crlf
  else sBuf

def handleCmd_PLAY (CSeq : Int) (session_ : List UInt8) : List UInt8 :=
  ascii "RTSP/1.0 200 OK \r\n" ++ ascii "CSeq: " ++ decimal CSeq ++ crlf ++
    ascii "Range: npt=0.000-\r\n" ++ ascii "Session: " ++ session_ ++ ascii "; timeout=10\r\n" ++
    crlf

def handleCmd_PAUSE (gmtTime : List UInt8) (CSeq : Int) : List UInt8 :=
  ascii "RTSP/1.0 200 OK \r\n" ++ ascii "CSeq: " ++ decimal CSeq ++ crlf ++
    ascii "Date: " ++ gmtTime ++ crlf ++ crlf

def handleCmd_TEARDOWN (CSeq : Int) : List UInt8 :=
  ascii "RTSP/1.0 200 OK \r\n" ++ ascii "CSeq: " ++ decimal CSeq ++ crlf ++ crlf

end FzServer.Rtsp
