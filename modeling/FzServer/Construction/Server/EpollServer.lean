import FzServer.Construction.Rtsp.CheckedHandler
import FzServer.Foundation.Machine

/-
This file gives the event loop of the server.
-/

namespace FzServer.Server

open Foundation Sessions Rtsp

/-- The handlers come and go, and the managers stay. -/
structure EpollServer where
  isOpen : Nat → Bool
  sessionManager : SessionManager
  clientFdManager : ClientFdManager

/-- No client is connected at the start. -/
def EpollServer.start : EpollServer := ⟨fun _ => false, .empty, .empty⟩

inductive Event
  | accept (clientFd : Nat)
  | epollError (clientFd : Nat)
  | readable (clientFd : Nat) (received : Received) (surroundings : Surroundings)

def EpollServer.openFd (server : EpollServer) (clientFd : Nat) : EpollServer :=
  { server with isOpen := Function.update server.isOpen clientFd true }

/-- Closing a descriptor clears nothing else. -/
def EpollServer.closeFd (server : EpollServer) (clientFd : Nat) : EpollServer :=
  { server with isOpen := Function.update server.isOpen clientFd false }

def EpollServer.handler (server : EpollServer) (clientFd : Nat) (surroundings : Surroundings) :
    RtspHandler where
  clientFd_ := clientFd
  clientIp_ := surroundings.clientIp_
  session_ := []
  sessionManager_ := server.sessionManager
  clientFdManager_ := server.clientFdManager

def EpollServer.keep (server : EpollServer) (handler : RtspHandler) : EpollServer :=
  { server with
    sessionManager := handler.sessionManager_
    clientFdManager := handler.clientFdManager_ }

/-- This output belongs to an event that reaches no handler. -/
def Output.silent : Output := ⟨none, false, .returned 0⟩

/-- The kernel reports a request only on an open descriptor and accepts only a closed one. -/
def EpollServer.step (server : EpollServer) : Event → EpollServer × Output
  | .accept clientFd =>
      (if server.isOpen clientFd then server else server.openFd clientFd, Output.silent)
  | .epollError clientFd => (server.closeFd clientFd, Output.silent)
  | .readable clientFd received surroundings =>
      if server.isOpen clientFd = false then (server, Output.silent)
      else
        let result := handleRequest received surroundings (server.handler clientFd surroundings)
        let kept := server.keep result.1
        (if received.bytes = [] then kept.closeFd clientFd else kept, result.2)

/-- The handler notices the sizes of its arrays. No value stands for an overflow. -/
def EpollServer.checkedStep (server : EpollServer) : Event → Option (EpollServer × Output)
  | .readable clientFd received surroundings =>
      if server.isOpen clientFd = false then some (server, Output.silent)
      else
        (checkedHandleRequest received surroundings (server.handler clientFd surroundings)).map
          fun result =>
            let kept := server.keep result.1
            (if received.bytes = [] then kept.closeFd clientFd else kept, result.2)
  | event => some (server.step event)

/-- A null session ends the process. -/
def epollServer : Machine EpollServer Event Output where
  step := EpollServer.step
  halts output := output.exit = .nullSession

abbrev ServerStage := Stage EpollServer Event Output

end FzServer.Server
