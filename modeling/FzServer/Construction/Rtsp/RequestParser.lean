import FzServer.Construction.Session.ClientFdManager
import FzServer.Construction.Session.SessionManager
import FzServer.Foundation.CString

/-
This file reads one request out of the receive buffer.
-/

namespace FzServer.Rtsp

open Foundation Sessions

def BUF_MAX_SIZE : Nat := 1024 * 1024

/-- No statement of the handler decides these values before it reads them. -/
structure Surroundings where
  clientIp_ : List UInt8
  randomBytes : Vector UInt8 16
  time : Int
  gmtTime : List UInt8
  method : List UInt8
  url : List UInt8
  version : List UInt8
  recv_session : List UInt8
  localIp : List UInt8
  sBuf : List UInt8
  heapState : SessionStaus
  attr : RtspAttr
  /-- These bytes lie behind a receive buffer that is completely full. -/
  pastBuffer : List UInt8

/-- Each event gets a new handler, and the managers are shared by all of them. -/
structure RtspHandler where
  clientFd_ : Nat
  clientIp_ : List UInt8
  session_ : List UInt8
  sessionManager_ : SessionManager
  clientFdManager_ : ClientFdManager

/-- These are the local variables of the parser and the handler that it changes. -/
structure Scanned where
  method : List UInt8
  url : List UInt8
  version : List UInt8
  CSeq : Int
  recv_session : List UInt8
  handler : RtspHandler

def Scanned.init (surroundings : Surroundings) (handler : RtspHandler) : Scanned where
  method := cstring surroundings.method
  url := cstring surroundings.url
  version := cstring surroundings.version
  CSeq := -1
  recv_session := cstring surroundings.recv_session
  handler := handler

/-- One receive call returns at most as many bytes as the buffer holds. -/
structure Received where
  bytes : List UInt8
  fits : bytes.length ≤ BUF_MAX_SIZE

/-- The buffer is zeroed first, so only a full buffer lacks its terminator. -/
def bufferText (received : List UInt8) (surroundings : Surroundings) : List UInt8 :=
  cstring (if received.length < BUF_MAX_SIZE then received
    else received ++ surroundings.pastBuffer)

def keywords : List (List UInt8) :=
  [ascii "OPTIONS", ascii "DESCRIBE", ascii "SETUP", ascii "PLAY", ascii "PAUSE", ascii "TEARDOWN"]

def hasKeyword (line : List UInt8) : Bool := keywords.any fun keyword => strstr line keyword

/-- A line that holds both names selects the second track. -/
def setTracks (line : List UInt8) (clientFd : Nat) (manager : ClientFdManager) : ClientFdManager :=
  let first := if strstr line (ascii "track0") then manager.setAvFlags clientFd false else manager
  if strstr line (ascii "track1") then first.setAvFlags clientFd true else first

/-- A conversion that fails ends the scan, and the earlier ones keep their effect. -/
def scanRequestLine (line : List UInt8) (scanned : Scanned) : Scanned :=
  match scanToken line with
  | none => scanned
  | some (method, afterMethod) =>
      match scanToken afterMethod with
      | none => { scanned with method }
      | some (url, afterUrl) =>
          match scanToken afterUrl with
          | none => { scanned with method, url }
          | some (version, _) => { scanned with method, url, version }

def scanCSeq (line : List UInt8) : Option Int :=
  (scanLiteral (ascii "CSeq:") line).bind scanInt

def scanSession (line : List UInt8) : Option (List UInt8) :=
  ((scanLiteral (ascii "Session:") line).bind scanToken).map Prod.fst

def Scanned.setTracks (scanned : Scanned) (line : List UInt8) : Scanned :=
  { scanned with handler := { scanned.handler with
      clientFdManager_ :=
        Rtsp.setTracks line scanned.handler.clientFd_ scanned.handler.clientFdManager_ } }

/-- The handler takes the local buffer even when the scan failed. -/
def Scanned.setSession (scanned : Scanned) (line : List UInt8) : Scanned :=
  let recv_session := (scanSession line).getD scanned.recv_session
  { scanned with recv_session, handler := { scanned.handler with session_ := recv_session } }

/-- The first test that succeeds classifies the line. -/
def parseLine (scanned : Scanned) (line : List UInt8) : Scanned :=
  if hasKeyword line then scanRequestLine line (scanned.setTracks line)
  else if strstr line (ascii "CSeq") then
    { scanned with CSeq := (scanCSeq line).getD scanned.CSeq }
  else if ascii "Transport:" <+: line then scanned
  else if strstr line (ascii "Session") then scanned.setSession line
  else scanned

def parseText (text : List UInt8) (scanned : Scanned) : Scanned :=
  (strtok 0x0A text).foldl parseLine scanned

/-- This is the loop over the lines of the buffer. -/
def parseRequest (received : List UInt8) (surroundings : Surroundings) (handler : RtspHandler) :
    Scanned :=
  parseText (bufferText received surroundings) (Scanned.init surroundings handler)

end FzServer.Rtsp
