import FzServer.Construction.Rtsp.UdpHandler
import FzServer.Construction.Server.EpollServer

/-
This file gives the server whose clients receive their tracks over UDP.
-/

namespace FzServer.Server

open Foundation Sessions Rtsp Utility

/-- The last two fields are a record of what happened and no function reads them. -/
structure UdpServer where
  server : EpollServer
  portManager : PortManager
  live : List (Nat × List UInt8)
  setUps : List (List UInt8 × Bool)

inductive UdpAction
  | accept (clientFd : Nat)
  | disconnect (clientFd : Nat)
  | receive (clientFd : Nat) (request : UdpRequest) (environment : UdpSurroundings)

/-- This request reaches the allocation of the ports. -/
def UdpAction.isSetup : UdpAction → Bool
  | .receive _ request _ => Method.ofText request.method = some .SETUP
  | _ => false

namespace UdpServer

def start : UdpServer := ⟨.start, .empty, [], []⟩

/-- The parser has set the flag and the session from the lines of the request. -/
def handler (udp : UdpServer) (clientFd : Nat) (request : UdpRequest)
    (environment : UdpSurroundings) : UdpHandler :=
  let fresh := udp.server.handler clientFd environment.surroundings
  ⟨{ fresh with
      session_ := request.session.getD []
      clientFdManager_ :=
        match request.track with
        | none => fresh.clientFdManager_
        | some flag => fresh.clientFdManager_.setAvFlags clientFd flag },
    udp.portManager⟩

/-- This is the session and the track that a SETUP request is about. -/
def setUp (udp : UdpServer) (clientFd : Nat) (request : UdpRequest)
    (environment : UdpSurroundings) : List UInt8 × Bool :=
  let handler := (udp.handler clientFd request environment).handler
  ((nameSession environment handler).session_, handler.clientFdManager_.flag clientFd)

/-- A session lives from its set-up to its teardown or to the end of its connection. -/
def record (udp : UdpServer) (clientFd : Nat) (request : UdpRequest)
    (environment : UdpSurroundings) (res : Int) : UdpServer :=
  let session := udp.setUp clientFd request environment
  match Method.ofText request.method with
  | some .SETUP =>
      { udp with
        live := if res = 0 ∧ session.2 = false then (clientFd, session.1) :: udp.live else udp.live
        setUps := session :: udp.setUps }
  | some .TEARDOWN =>
      { udp with live := udp.live.filter fun entry => some entry.2 ≠ request.session }
  | _ => udp

/-- The server ends with an exception and with a read through a null session. -/
def serve (udp : UdpServer) (clientFd : Nat) (request : UdpRequest)
    (environment : UdpSurroundings) : Option UdpServer :=
  match build_string request environment (udp.handler clientFd request environment) with
  | .built ⟨res, sBuf, handler, portManager⟩ =>
      let after := afterReply ⟨res, replyText ⟨res, sBuf, handler⟩ request.CSeq⟩ handler
      if after.2.exit = .nullSession then none
      else some { udp.record clientFd request environment res with
        server := udp.server.keep after.1
        portManager }
  | _ => none

def step (udp : UdpServer) : UdpAction → Option UdpServer
  | .accept clientFd =>
      if udp.server.isOpen clientFd then none
      else some { udp with server := udp.server.openFd clientFd }
  | .disconnect clientFd =>
      if udp.server.isOpen clientFd then
        some { udp with
          server := udp.server.closeFd clientFd
          live := udp.live.filter fun entry => entry.1 ≠ clientFd }
      else none
  | .receive clientFd request environment =>
      if udp.server.isOpen clientFd then udp.serve clientFd request environment else none

/-- At most a hundred sessions live, and each of them sets up each track once. -/
def Moderate (udp : UdpServer) : UdpAction → Prop
  | .receive clientFd request environment =>
      let session := udp.setUp clientFd request environment
      Method.ofText request.method = some .SETUP →
        session ∉ udp.setUps ∧ (session.2 = false → udp.live.length < 100)
  | _ => True

end UdpServer

end FzServer.Server
