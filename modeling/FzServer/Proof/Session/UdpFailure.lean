import FzServer.Proof.Session.UdpPorts

/-
This file says what a SETUP request leaves behind when a server socket fails.
-/

namespace FzServer.Server

open Foundation Sessions Rtsp Utility

/-- The request has changed no table, and it holds no socket. -/
structure NoTrace (udp : UdpServer) (environment : UdpSurroundings) (built : UdpBuilt) : Prop where
  ports : built.handler.portManager_.allocatedPorts = udp.portManager.allocatedPorts
  sessionIds : built.handler.handler.clientFdManager_.avSessionIds_ =
    udp.server.clientFdManager.avSessionIds_
  sessions : built.handler.handler.sessionManager_.sessions = udp.server.sessionManager.sessions
  sockets : environment.openSockets = []

/-- A server socket cannot be created or bound. -/
def SocketFails (environment : UdpSurroundings) : Prop :=
  (environment.serverRtpSockfd < 0 ∨ environment.serverRtcpSockfd < 0) ∨
    (environment.rtpBound = false ∨ environment.rtcpBound = false)

section Branch

variable {request : UdpRequest} {environment : UdpSurroundings} {handler : UdpHandler}
  {built : UdpBuilt}

/-- The branch keeps the name and the pair whatever the operating system answers. -/
theorem buildUdpSetup_failed (now : buildUdpSetup request environment handler = .built built)
    (failed : built.res = -1) :
    SocketFails environment ∧ built.handler.handler = nameSession environment handler.handler := by
  unfold buildUdpSetup at now
  split at now
  next => nomatch now
  next => nomatch now
  next ports portManager returned =>
    dsimp only at now
    split_ifs at now with sockets bound
    · cases now
      exact ⟨Or.inl sockets, rfl⟩
    · cases now
      exact ⟨Or.inr bound, rfl⟩
    · split at now
      next => nomatch now
      next =>
        cases now
        exact absurd failed nofun

theorem nameSession_sessions (environment : UdpSurroundings) (handler : RtspHandler) :
    (nameSession environment handler).sessionManager_ = handler.sessionManager_ := by
  unfold nameSession
  dsimp only
  split_ifs <;> rfl

theorem nameSession_records {handler : RtspHandler}
    (first : handler.clientFdManager_.flag handler.clientFd_ = false) :
    (nameSession environment handler).clientFdManager_.sessionId handler.clientFd_ =
      generateSessionId environment.surroundings.randomBytes := by
  have flag : (handler.clientFdManager_.getAvFlags handler.clientFd_).1 = false := first
  unfold nameSession
  rw [if_pos flag]
  exact ClientFdManager.sessionId_setSessionIds _ _ _

end Branch

section Requests

variable {udp : UdpServer} {clientFd : Nat} {request : UdpRequest} {environment : UdpSurroundings}
  {built : UdpBuilt}

/-- A failed request keeps a new pair of ports, and the first track also keeps its new name. -/
theorem failedSetup_trace (setup : Method.ofText request.method = some .SETUP)
    (now : build_string request environment (udp.handler clientFd request environment) =
      .built built) (failed : built.res = -1) :
    SocketFails environment ∧
      (∃ ports, WellFormed ports ∧ Disjoint (portCells ports) udp.portManager.allocatedPorts ∧
        built.handler.portManager_.allocatedPorts =
          portCells ports ∪ udp.portManager.allocatedPorts) ∧
      (request.track = some false →
        built.handler.handler.clientFdManager_.sessionId clientFd =
          generateSessionId environment.surroundings.randomBytes) ∧
      built.handler.handler.sessionManager_ = udp.server.sessionManager := by
  rw [build_string, if_pos setup] at now
  obtain ⟨fails, kept⟩ := buildUdpSetup_failed now failed
  obtain ⟨ports, returned⟩ := buildUdpSetup_ports now
  refine ⟨fails, ⟨ports, generatePorts_wellFormed returned, ?_⟩, fun first => ?_, ?_⟩
  · obtain ⟨_, fresh, allocated⟩ := generatePorts_ok returned
    refine ⟨fresh, ?_⟩
    rw [allocated, allocate_cells]
    rfl
  · rw [kept]
    refine @nameSession_records environment (udp.handler clientFd request environment).handler ?_
    simp [UdpServer.handler, EpollServer.handler, first, ClientFdManager.flag,
      ClientFdManager.setAvFlags]
  · rw [kept, nameSession_sessions]
    rfl

/-- Every SETUP request that fails leaves a trace. -/
theorem failedSetup_leavesTrace (setup : Method.ofText request.method = some .SETUP)
    (now : build_string request environment (udp.handler clientFd request environment) =
      .built built) (failed : built.res = -1) : ¬NoTrace udp environment built := by
  intro clean
  obtain ⟨_, ⟨ports, _, fresh, allocated⟩, _⟩ := failedSetup_trace setup now failed
  have taken : ports.1 ∈ portCells ports := Finset.mem_insert_self _ _
  have known : ports.1 ∈ udp.portManager.allocatedPorts := by
    rw [← clean.ports, allocated]
    exact Finset.mem_union_left _ taken
  exact Finset.disjoint_left.mp fresh taken known

end Requests

/-- The second socket cannot be created. -/
def failingSurroundings : UdpSurroundings :=
  { setupSurroundings 0 ⟨55003, by decide, by decide⟩ with serverRtcpSockfd := -1 }

/-- One client is connected. -/
def oneClient : UdpServer := { UdpServer.start with server := EpollServer.start.openFd 5 }

theorem failedSetup_leavesTrace_connected :
    ∃ built, Foundation.follow UdpServer.step .start [.accept 5] = some oneClient ∧
      build_string setupRequest failingSurroundings
        (oneClient.handler 5 setupRequest failingSurroundings) = .built built ∧
      built.res = -1 ∧ ¬NoTrace oneClient failingSurroundings built :=
  ⟨_, rfl, rfl, rfl, @failedSetup_leavesTrace oneClient 5 setupRequest failingSurroundings _
    (by decide) rfl rfl⟩

/-- The ports and the name of this request stay, and its first socket stays open. -/
theorem failedSetup_takesPorts :
    ∃ built, Foundation.follow UdpServer.step .start [.accept 5] = some oneClient ∧
      build_string setupRequest failingSurroundings
        (oneClient.handler 5 setupRequest failingSurroundings) = .built built ∧
      built.res = -1 ∧ built.handler.portManager_.allocatedPorts = {55003, 55002} ∧
      failingSurroundings.openSockets = [7] ∧ ¬NoTrace oneClient failingSurroundings built := by
  refine ⟨_, rfl, rfl, rfl, by decide +kernel, by decide, fun clean => ?_⟩
  exact absurd clean.ports (by decide +kernel)

end FzServer.Server
