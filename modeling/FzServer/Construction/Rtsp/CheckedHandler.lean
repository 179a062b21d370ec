import FzServer.Construction.Rtsp.CheckedParser
import FzServer.Construction.Rtsp.RtspHandler

/-
This file runs the handler with the sizes of its arrays and notices each text that does not fit.
What it reads of the old bytes of an array is not checked.
-/

namespace FzServer.Rtsp

open Foundation

/-- The description is built in these arrays. -/
def localIpSize : Nat := 100
def sdpSize : Nat := 500

/-- Only a host that the url names is stored. -/
def checkedLocalIp (url localIp : List UInt8) : Option (List UInt8) :=
  match scanLiteral (ascii "rtsp://") url with
  | none => some localIp
  | some rest =>
      let host := rest.takeWhile (· ≠ 0x3A)
      if host = [] then some localIp else storeToken localIpSize host

/-- The host and the description are stored before the reply is printed. -/
def checkedDESCRIBE (time : Int) (localIp : List UInt8) (CSeq : Int) (url : List UInt8) :
    Option (List UInt8) :=
  (checkedLocalIp url localIp).bind fun host =>
    (storeToken sdpSize (sessionDescription time host)).map fun _ =>
      handleCmd_DESCRIBE time localIp CSeq url

/-- No other branch stores a text on the stack. -/
def checkedServe (surroundings : Surroundings) (scanned : Scanned) :
    Option (RtspHandler × Output) :=
  if Method.ofText scanned.method = some .DESCRIBE then
    (checkedDESCRIBE surroundings.time (cstring surroundings.localIp) scanned.CSeq
      scanned.url).map fun _ => serve surroundings scanned
  else some (serve surroundings scanned)

/-- No value stands for an overflow or for a read behind the receive buffer. -/
def checkedHandleRequest (received : Received) (surroundings : Surroundings)
    (handler : RtspHandler) : Option (RtspHandler × Output) :=
  if received.bytes = [] then some (handleRequest received surroundings handler)
  else
    match checkedRequest received surroundings handler with
    | some (.finished scanned) => checkedServe surroundings scanned
    | _ => none

end FzServer.Rtsp
