import FzServer.Construction.Server.UdpServer
import FzServer.Proof.Session.Requests
import FzServer.Proof.Utility.PortPool

/-
This file follows the ports of the UDP server through whole runs.
-/

namespace FzServer.Server

open Foundation Sessions Rtsp Utility

section Steps

variable {request : UdpRequest} {environment : UdpSurroundings}

/-- Every SETUP request that is served takes a pair, whatever comes of it. -/
theorem buildUdpSetup_ports {udp : UdpHandler} {built : UdpBuilt}
    (now : buildUdpSetup request environment udp = .built built) :
    ∃ ports, udp.portManager_.generatePorts environment.attempts =
      some (.ok (ports, built.handler.portManager_)) := by
  unfold buildUdpSetup at now
  split at now
  next => nomatch now
  next => nomatch now
  next ports portManager returned =>
    refine ⟨ports, returned.trans ?_⟩
    split_ifs at now
    · cases now
      rfl
    · cases now
      rfl
    · dsimp only at now
      split at now
      next => nomatch now
      next =>
        cases now
        rfl

theorem build_string_ports {udp : UdpHandler} {built : UdpBuilt}
    (other : Method.ofText request.method ≠ some .SETUP)
    (now : build_string request environment udp = .built built) :
    built.handler.portManager_ = udp.portManager_ := by
  rw [build_string, if_neg other] at now
  split at now
  next => nomatch now
  next =>
    cases now
    rfl

theorem udpServe_built {udp next : UdpServer} {clientFd : Nat}
    (now : udp.serve clientFd request environment = some next) :
    ∃ built, build_string request environment (udp.handler clientFd request environment) =
      .built built ∧ next.portManager = built.handler.portManager_ := by
  unfold UdpServer.serve at now
  split at now
  next res sBuf handler portManager outcome =>
    dsimp only at now
    split_ifs at now
    cases now
    exact ⟨_, outcome, rfl⟩
  next => nomatch now

end Steps

/-- So many pairs are gone for good. -/
def Spent (udp : UdpServer) (count : Nat) : Prop :=
  ∃ pairs : List PortPair, pairs.length = count ∧ Holds udp.portManager pairs

theorem Spent.step {udp next : UdpServer} {action : UdpAction} {count : Nat}
    (spent : Spent udp count) (now : udp.step action = some next) :
    Spent next (count + if action.isSetup then 1 else 0) := by
  obtain ⟨pairs, length, holds⟩ := spent
  cases action with
  | accept clientFd =>
      dsimp only [UdpServer.step] at now
      split_ifs at now
      cases now
      exact ⟨pairs, length, holds⟩
  | disconnect clientFd =>
      dsimp only [UdpServer.step] at now
      split_ifs at now
      cases now
      exact ⟨pairs, length, holds⟩
  | receive clientFd request environment =>
      dsimp only [UdpServer.step] at now
      split_ifs at now
      obtain ⟨built, outcome, manager⟩ := udpServe_built now
      by_cases setup : Method.ofText request.method = some .SETUP
      · have spends : (UdpAction.receive clientFd request environment).isSetup = true :=
          decide_eq_true setup
        rw [build_string, if_pos setup] at outcome
        obtain ⟨ports, returned⟩ := buildUdpSetup_ports outcome
        rw [if_pos spends]
        refine ⟨ports :: pairs, congrArg Nat.succ length, ?_⟩
        rw [manager]
        exact holds.generatePorts returned
      · have keeps : (UdpAction.receive clientFd request environment).isSetup = false :=
          decide_eq_false setup
        rw [keeps]
        refine ⟨pairs, length, ?_⟩
        rw [manager, build_string_ports setup outcome]
        exact holds

theorem spent_run {start final : UdpServer} {schedule : List UdpAction} {count : Nat}
    (spent : Spent start count)
    (run : Foundation.follow UdpServer.step start schedule = some final) :
    Spent final (count + schedule.countP UdpAction.isSetup) := by
  have kept := follow_invariant
    (fun udp rest => ∃ sofar, Spent udp sofar ∧
      sofar + rest.countP UdpAction.isSetup = count + schedule.countP UdpAction.isSetup)
    (fun udp action rest next ⟨sofar, spent, total⟩ now => by
      refine ⟨_, spent.step now, ?_⟩
      rw [List.countP_cons] at total
      omega)
    ⟨count, spent, rfl⟩ run
  obtain ⟨sofar, spent, total⟩ := kept
  rw [← total]
  exact spent

theorem spent_start : Spent .start 0 := ⟨[], rfl, Holds.empty⟩

/-- A draw can end the loop exactly while fewer than 5268 SETUP requests have been served. -/
theorem udpPorts_available {schedule : List UdpAction} {final : UdpServer}
    (run : Foundation.follow UdpServer.step .start schedule = some final) :
    (∃ draw, final.portManager.Returns draw) ↔ schedule.countP UdpAction.isSetup < 5268 := by
  obtain ⟨pairs, length, holds⟩ := spent_run spent_start run
  rw [holds.available_iff, length, Nat.zero_add]

section Exhaustion

/-- This request comes from a client that sets up its first track. -/
def setupRequest : UdpRequest where
  method := ascii "SETUP"
  url := ascii "rtsp://host/track0"
  CSeq := 3
  track := some false
  session := none
  clientRtpPort := 5000
  clientRtcpPort := 5001

/-- The random bytes are the digits of the number of the client. -/
def sessionBytes (index : Nat) : Vector UInt8 16 :=
  Vector.ofFn fun place => UInt8.ofNat (index / 256 ^ place.val)

/-- The sockets of the earlier clients are still open. -/
def setupSurroundings (index : Nat) (draw : Draw) : UdpSurroundings where
  surroundings := ⟨[], sessionBytes index, 0, [], [], [], [], [], [], [], .NONE, .zero, []⟩
  attempts := [⟨draw, .bound, .bound⟩]
  serverRtpSockfd := 7 + 2 * index
  serverRtcpSockfd := 8 + 2 * index
  rtpBound := true
  rtcpBound := true

/-- The client leaves behind its first request. -/
def shortVisit (index : Nat) (draw : Draw) : List UdpAction :=
  [.accept 5, .receive 5 setupRequest (setupSurroundings index draw), .disconnect 5]

/-- Every probe of a port succeeds. -/
def ProbesBind : UdpAction → Prop
  | .receive _ _ environment =>
      ∀ attempt ∈ environment.attempts, attempt.rtpProbe = .bound ∧ attempt.rtcpProbe = .bound
  | _ => True

theorem shortVisit_binds (index : Nat) (draw : Draw) :
    ∀ action ∈ shortVisit index draw, ProbesBind action := by
  simp [shortVisit, ProbesBind, setupSurroundings]

theorem sessionBytes_injective {first second : Nat} (one : first < 65536) (two : second < 65536)
    (same : sessionBytes first = sessionBytes second) : first = second := by
  have digit (place : Fin 16) :
      UInt8.ofNat (first / 256 ^ place.val) = UInt8.ofNat (second / 256 ^ place.val) := by
    have entry := congrArg (fun bytes : Vector UInt8 16 => bytes[place.val]) same
    simpa only [sessionBytes, Vector.getElem_ofFn] using entry
  have low : first / 256 ^ 0 % 256 = second / 256 ^ 0 % 256 := congrArg UInt8.toNat (digit 0)
  have high : first / 256 ^ 1 % 256 = second / 256 ^ 1 % 256 := congrArg UInt8.toNat (digit 1)
  omega

/-- No client is connected, and every session so far belongs to an earlier client. -/
structure Calm (udp : UdpServer) (count : Nat) : Prop where
  closed : udp.server.isOpen 5 = false
  live : udp.live = []
  earlier : ∀ key ∈ udp.setUps,
    ∃ index < count, key = (generateSessionId (sessionBytes index), false)

variable {udp : UdpServer} {count : Nat} {draw : Draw}

theorem setUp_shortVisit :
    udp.setUp 5 setupRequest (setupSurroundings count draw) =
      (generateSessionId (sessionBytes count), false) := by
  simp [UdpServer.setUp, UdpServer.handler, setupRequest, nameSession, setupSurroundings,
    ClientFdManager.getAvFlags, ClientFdManager.flag, ClientFdManager.setAvFlags,
    EpollServer.handler]

theorem nameSession_first {environment : UdpSurroundings} {handler : RtspHandler}
    (first : handler.clientFdManager_.flag handler.clientFd_ = false) :
    let named := nameSession environment handler
    named.session_ = generateSessionId environment.surroundings.randomBytes ∧
      named.clientFdManager_.flag named.clientFd_ = false := by
  have flag : (handler.clientFdManager_.getAvFlags handler.clientFd_).1 = false := first
  unfold nameSession
  rw [if_pos flag]
  refine ⟨rfl, ?_⟩
  change (Function.update handler.clientFdManager_.avFlags_ handler.clientFd_
    (some (handler.clientFdManager_.flag handler.clientFd_)) handler.clientFd_).getD false = false
  rw [Function.update_self]
  exact first

theorem buildUdpSetup_first {request : UdpRequest} {environment : UdpSurroundings}
    {handler : UdpHandler} {ports : PortPair} {portManager : PortManager}
    (first : handler.handler.clientFdManager_.flag handler.handler.clientFd_ = false)
    (returned : handler.portManager_.generatePorts environment.attempts =
      some (.ok (ports, portManager)))
    (sockets : ¬(environment.serverRtpSockfd < 0 ∨ environment.serverRtcpSockfd < 0))
    (bound : ¬(environment.rtpBound = false ∨ environment.rtcpBound = false)) :
    ∃ sBuf stored sess,
      buildUdpSetup request environment handler = .built ⟨0, sBuf, stored, portManager⟩ ∧
        stored.session_ = generateSessionId environment.surroundings.randomBytes ∧
        stored.sessionManager_.getSession stored.session_ = some sess ∧
        sess.state_ = environment.surroundings.heapState := by
  obtain ⟨named, unset⟩ := @nameSession_first environment handler.handler first
  have flag : ((nameSession environment handler.handler).clientFdManager_.getAvFlags
    (nameSession environment handler.handler).clientFd_).1 = false := unset
  unfold buildUdpSetup
  rw [returned]
  dsimp only
  rw [if_neg sockets, if_neg bound, storeTrack, if_pos flag]
  exact ⟨_, _, _, rfl, named, getSession_addSession _ _ _, rfl⟩

theorem record_first {request : UdpRequest} {environment : UdpSurroundings} {clientFd : Nat}
    (setup : Method.ofText request.method = some .SETUP)
    (first : (udp.setUp clientFd request environment).2 = false) :
    udp.record clientFd request environment 0 =
      let session := udp.setUp clientFd request environment
      { udp with
        live := (clientFd, session.1) :: udp.live
        setUps := session :: udp.setUps } := by
  unfold UdpServer.record
  rw [setup]
  dsimp only
  rw [if_pos ⟨rfl, first⟩]

theorem serve_shortVisit (returns : udp.portManager.Returns draw) :
    ∃ next, udp.serve 5 setupRequest (setupSurroundings count draw) = some next ∧
      next.server.isOpen = udp.server.isOpen ∧
      next.live = (5, generateSessionId (sessionBytes count)) :: udp.live ∧
      next.setUps = (generateSessionId (sessionBytes count), false) :: udp.setUps := by
  obtain ⟨ports, portManager, returned⟩ := returns
  have setup : Method.ofText setupRequest.method = some .SETUP := by decide
  have tracked : (udp.setUp 5 setupRequest (setupSurroundings count draw)).2 = false :=
    congrArg Prod.snd setUp_shortVisit
  have first :
      (udp.handler 5 setupRequest (setupSurroundings count draw)).handler.clientFdManager_.flag
      5 = false := by
    simp [UdpServer.handler, setupRequest, ClientFdManager.flag, ClientFdManager.setAvFlags]
  obtain ⟨sBuf, stored, sess, built, named, found, state⟩ :=
    @buildUdpSetup_first setupRequest (setupSurroundings count draw)
      (udp.handler 5 setupRequest (setupSurroundings count draw)) ports portManager first returned
      (by simp only [setupSurroundings]; omega) (by simp [setupSurroundings])
  have identified : stored.session_ ≠ [] := by
    rw [named]
    exact generateSessionId_ne_nil _
  have quiet : sess.state_ ≠ .PLAYING := by
    rw [state]
    exact nofun
  unfold UdpServer.serve
  rw [build_string, if_pos setup, built]
  dsimp only
  rw [afterReply_quiet identified found quiet, if_neg nofun]
  refine ⟨_, rfl, rfl, ?_, ?_⟩
  · change (udp.record 5 setupRequest (setupSurroundings count draw) 0).live = _
    rw [record_first setup tracked, setUp_shortVisit]
  · change (udp.record 5 setupRequest (setupSurroundings count draw) 0).setUps = _
    rw [record_first setup tracked, setUp_shortVisit]

theorem Calm.visit (calm : Calm udp count) (small : count < 65536)
    (returns : udp.portManager.Returns draw) :
    ∃ next, Foundation.follow UdpServer.step udp (shortVisit count draw) = some next ∧
      Meets UdpServer.step UdpServer.Moderate udp (shortVisit count draw) ∧
      Calm next (count + 1) := by
  let opened : UdpServer := { udp with server := udp.server.openFd 5 }
  have accepted : udp.step (.accept 5) = some opened := by
    simp [UdpServer.step, calm.closed, opened]
  obtain ⟨served, serves, isOpen, live, setUps⟩ :=
    @serve_shortVisit opened count draw returns
  have connected : opened.server.isOpen 5 = true := by simp [opened, EpollServer.openFd]
  have received : opened.step (.receive 5 setupRequest (setupSurroundings count draw)) =
      some served := by
    rw [UdpServer.step, if_pos connected]
    exact serves
  let final : UdpServer :=
    { served with
      server := served.server.closeFd 5
      live := served.live.filter fun entry => entry.1 ≠ 5 }
  have left : served.step (.disconnect 5) = some final := by
    rw [UdpServer.step, if_pos (by rw [isOpen, connected])]
  refine ⟨final, ?_, Meets.cons trivial accepted (Meets.cons (fun _ => ?_) received
    (Meets.cons trivial left trivial)), ?_⟩
  · rw [shortVisit, follow_cons, accepted, Option.bind_some, follow_cons, received,
      Option.bind_some, follow_cons, left, Option.bind_some]
    rfl
  · rw [setUp_shortVisit]
    refine ⟨fun member => ?_, fun _ => ?_⟩
    · obtain ⟨index, before, same⟩ := calm.earlier _ member
      obtain ⟨names, _⟩ := Prod.mk.inj same
      have equal := sessionBytes_injective small (before.trans small)
        (generateSessionId_injective names)
      exact absurd equal before.ne'
    · change udp.live.length < 100
      rw [calm.live]
      decide
  · refine ⟨by simp [final, EpollServer.closeFd], ?_, ?_⟩
    · change served.live.filter _ = []
      rw [live]
      change List.filter _ ((5, _) :: udp.live) = []
      rw [calm.live]
      rfl
    · change ∀ key ∈ served.setUps, _
      rw [setUps]
      refine List.forall_mem_cons.mpr ⟨⟨count, Nat.lt_succ_self count, rfl⟩, fun key member => ?_⟩
      obtain ⟨index, before, same⟩ := calm.earlier key member
      exact ⟨index, Nat.lt_succ_of_lt before, same⟩

/-- So many clients come and go that each leaves its pair behind. -/
theorem calm_run (few : count ≤ 5268) :
    ∃ schedule final, Foundation.follow UdpServer.step .start schedule = some final ∧
      Meets UdpServer.step UdpServer.Moderate .start schedule ∧
      (∀ action ∈ schedule, ProbesBind action) ∧
      schedule.countP UdpAction.isSetup = count ∧ Calm final count := by
  induction count with
  | zero => exact ⟨[], .start, rfl, trivial, by simp, rfl, rfl, rfl, nofun⟩
  | succ count ih =>
      obtain ⟨schedule, middle, run, moderate, binds, counted, calm⟩ := ih (by omega)
      obtain ⟨pairs, length, holds⟩ := spent_run spent_start run
      obtain ⟨draw, returns⟩ := holds.available_iff.mpr (by omega)
      obtain ⟨final, visits, visitModerate, finalCalm⟩ := calm.visit (by omega) returns
      refine ⟨schedule ++ shortVisit count draw, final, ?_, moderate.append run visitModerate,
        fun action member => ?_, ?_, finalCalm⟩
      · rw [follow_append, run, Option.bind_some, visits]
      · exact (List.mem_append.mp member).elim (binds action)
          (shortVisit_binds count draw action)
      · rw [List.countP_append, counted]
        rfl

theorem udpPorts_available_shortVisit :
    let visit := shortVisit 0 ⟨55001, by decide, by decide⟩
    (∃ draw, ((Foundation.follow UdpServer.step .start visit).get
      (by decide +kernel)).portManager.Returns draw) ↔ visit.countP UdpAction.isSetup < 5268 :=
  udpPorts_available (Option.some_get _).symm

/-- Clients that set up one track each and leave exhaust the pool. -/
theorem udpPorts_exhausted :
    ¬∀ (schedule : List UdpAction) (final : UdpServer),
      Meets UdpServer.step UdpServer.Moderate .start schedule →
        (∀ action ∈ schedule, ProbesBind action) →
          Foundation.follow UdpServer.step .start schedule = some final →
            ∃ draw, final.portManager.Returns draw := by
  intro always
  obtain ⟨schedule, final, run, moderate, binds, counted, _⟩ := calm_run (Nat.le_refl 5268)
  obtain ⟨pairs, length, holds⟩ := spent_run spent_start run
  have fewer := holds.available_iff.mp (always schedule final moderate binds run)
  omega

end Exhaustion

end FzServer.Server
