import FzServer.Construction.Rtsp.UdpParser
import FzServer.Construction.Server.UdpServer

/-
This file gives the event loop of the server whose clients receive their tracks over UDP.
-/

namespace FzServer.Server

open Foundation Sessions Rtsp Utility

/-- The handlers come and go, and the managers stay. -/
structure UdpTables where
  server : EpollServer
  portManager : PortManager

def UdpTables.start : UdpTables := ⟨.start, .empty⟩

inductive UdpEvent
  | accept (clientFd : Nat)
  | epollError (clientFd : Nat)
  | readable (clientFd : Nat) (received : Received) (environment : UdpSurroundings)

/-- The bytes of a request reach the handler through its receive buffer. -/
def UdpTables.receive (udp : UdpTables) (clientFd : Nat) (received : Received)
    (environment : UdpSurroundings) : UdpTables × UdpResult :=
  let handler := udp.server.handler clientFd environment.surroundings
  let result := serveUdp environment
    (parseUdpRequest received.bytes environment.surroundings handler) udp.portManager
  (⟨udp.server.keep result.1.handler, result.1.portManager_⟩, result.2)

/-- The kernel reports a request only on an open descriptor and accepts only a closed one. -/
def UdpTables.step (udp : UdpTables) : UdpEvent → UdpTables × UdpResult
  | .accept clientFd =>
      (if udp.server.isOpen clientFd then udp
        else { udp with server := udp.server.openFd clientFd },
        .output Output.silent)
  | .epollError clientFd =>
      ({ udp with server := udp.server.closeFd clientFd }, .output Output.silent)
  | .readable clientFd received environment =>
      if udp.server.isOpen clientFd = false then (udp, .output Output.silent)
      else if received.bytes = [] then
        ({ udp with server := udp.server.closeFd clientFd }, .output ⟨none, false, .returned (-1)⟩)
      else udp.receive clientFd received environment

/-- A null session, an exception and an endless search end the service. -/
def UdpResult.ends : UdpResult → Bool
  | .output output => output.exit = .nullSession
  | .thrown _ => true
  | .searching => true

def udpServer : Machine UdpTables UdpEvent UdpResult where
  step := UdpTables.step
  halts := UdpResult.ends

abbrev UdpStage := Stage UdpTables UdpEvent UdpResult

end FzServer.Server
