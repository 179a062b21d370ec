import FzServer.Construction.Server.UdpEvents
import FzServer.Proof.Parsing.UdpReading
import FzServer.Proof.Session.Directory
import FzServer.Proof.Session.UdpFailure

/-
This file compares whole runs of the servers for the two transports.
-/

namespace FzServer.Server

open Foundation Sessions Rtsp Utility Parsing

/-- The transport plays no part in these events. -/
def tcpEvent : UdpEvent → Event
  | .accept clientFd => .accept clientFd
  | .epollError clientFd => .epollError clientFd
  | .readable clientFd received environment =>
      .readable clientFd received environment.surroundings

/-- This is what the handler has read out of the bytes on an open descriptor. -/
def udpRequestOf (udp : UdpTables) (event : UdpEvent) : Option Request :=
  requestOf udp.server (tcpEvent event)

def grantsPorts (environment : UdpSurroundings) (portManager : PortManager) : Bool :=
  match portManager.generatePorts environment.attempts with
  | some (.ok _) => true
  | _ => false

/-- A SETUP request gets its two ports and its two sockets. -/
def Granted (now : UdpStage) : Prop :=
  match now.event with
  | .readable _ _ environment =>
      ∀ request ∈ udpRequestOf now.before now.event, request.method = some .SETUP →
        grantsPorts environment now.before.portManager = true ∧ ¬SocketFails environment
  | _ => True

/-- The replies to SETUP name the same session, and all other replies are equal. -/
structure SameReply (request : Option Request) (udp tcp : Option Reply) : Prop where
  setUp : ∀ asked ∈ request, asked.method = some .SETUP → udp = none ∧ tcp = none ∨
    ∃ rtp rtcp ports session,
      udp = some ⟨0, handleCmd_SETUP asked.scanned.CSeq rtp rtcp ports session⟩ ∧
        tcp = some ⟨0, asked.setupReply session⟩
  other : (∀ asked ∈ request, asked.method ≠ some .SETUP) → udp = tcp

/-- Both servers answer the request alike and go on with the same sessions and flags. -/
structure SameAnswer (udp : UdpStage) (tcp : ServerStage) : Prop where
  tables : serverDirectory udp.after.server = serverDirectory tcp.after
  output : ∃ output, udp.output = .output output ∧ output.media = tcp.output.media ∧
    output.exit = tcp.output.exit ∧
    SameReply (requestOf tcp.before tcp.event) output.reply tcp.output.reply

section Handler

variable (isOpen : Nat → Bool) (environment : UdpSurroundings) (read : UdpScanned)
  (portManager : PortManager) (track : Option Bool)

/-- Every other method has the code of the TCP handler. -/
theorem serveUdp_other (other : Method.ofText read.scanned.method ≠ some .SETUP) :
    serveUdp environment read portManager =
      (⟨(Rtsp.serve environment.surroundings read.scanned).1, portManager⟩,
        .output (Rtsp.serve environment.surroundings read.scanned).2) := by
  have kind : Method.ofText read.request.method ≠ some .SETUP := other
  rw [serveUdp, build_string, if_neg kind, Rtsp.serve]
  dsimp only [UdpScanned.request]
  cases build_string_tcp environment.surroundings read.scanned.handler read.scanned.CSeq
    read.scanned.method read.scanned.url with
  | none => rfl
  | some built => rfl

/-- This asks for the same session, and the reply announces the ports. -/
def udpAsk (ask : Ask) (ports : PortPair) : Ask :=
  { ask with text := fun _ session =>
      handleCmd_SETUP read.scanned.CSeq read.clientRtpPort read.clientRtcpPort ports session }

/-- The first track gives the descriptor a new name and touches no flag. -/
theorem nameSession_new {handler : RtspHandler}
    (first : handler.clientFdManager_.flag handler.clientFd_ = false) :
    let named := nameSession environment handler
    let created := generateSessionId environment.surroundings.randomBytes
    named.clientFd_ = handler.clientFd_ ∧ named.session_ = created ∧
      handlerDirectory isOpen named = { handlerDirectory isOpen handler with
        ids := Function.update handler.clientFdManager_.sessionId handler.clientFd_ created } := by
  have flag : (handler.clientFdManager_.getAvFlags handler.clientFd_).1 = false := first
  rw [nameSession, if_pos flag]
  refine ⟨rfl, rfl, ?_⟩
  rw [handlerDirectory, directoryOf, sessionId_setSessionIds_update]
  congr 1
  exact flag_getAvFlags _ _

/-- The second track takes the name of the descriptor. -/
theorem nameSession_old {handler : RtspHandler}
    (second : handler.clientFdManager_.flag handler.clientFd_ = true) :
    let named := nameSession environment handler
    named.clientFd_ = handler.clientFd_ ∧
      named.session_ = handler.clientFdManager_.sessionId handler.clientFd_ ∧
      handlerDirectory isOpen named = handlerDirectory isOpen handler := by
  have flag : ¬(handler.clientFdManager_.getAvFlags handler.clientFd_).1 = false := by
    change ¬handler.clientFdManager_.flag handler.clientFd_ = false
    rw [second]
    decide
  rw [nameSession, if_neg flag]
  refine ⟨rfl, rfl, ?_⟩
  rw [handlerDirectory, directoryOf, sessionId_getSessionIds]
  congr 1
  exact flag_getAvFlags _ _

/-- The first track is stored in a new session, whatever the ports. -/
theorem storeTrack_first {handler : RtspHandler} (attr : RtspAttr)
    (first : handler.clientFdManager_.flag handler.clientFd_ = false) :
    ∃ stored, storeTrack environment attr handler = some stored ∧
      stored.session_ = handler.session_ ∧
      handlerDirectory isOpen stored = { handlerDirectory isOpen handler with
        states := Function.update (stateOf handler.sessionManager_) handler.session_
          (some environment.surroundings.heapState) } := by
  have flag : (handler.clientFdManager_.getAvFlags handler.clientFd_).1 = false := first
  rw [storeTrack]
  simp only [if_pos flag]
  refine ⟨_, rfl, rfl, ?_⟩
  rw [handlerDirectory, directoryOf, stateOf_addSession_update, flag_getAvFlags]
  rfl

/-- The second track is stored in the session that the handler has found. -/
theorem storeTrack_second {handler : RtspHandler} (attr : RtspAttr)
    (second : handler.clientFdManager_.flag handler.clientFd_ = true) :
    (stateOf handler.sessionManager_ handler.session_ = none →
        storeTrack environment attr handler = none) ∧
      (stateOf handler.sessionManager_ handler.session_ ≠ none →
        ∃ stored, storeTrack environment attr handler = some stored ∧
          stored.session_ = handler.session_ ∧
          handlerDirectory isOpen stored = handlerDirectory isOpen handler) := by
  have flag : ¬(handler.clientFdManager_.getAvFlags handler.clientFd_).1 = false := by
    change ¬handler.clientFdManager_.flag handler.clientFd_ = false
    rw [second]
    decide
  rw [storeTrack]
  simp only [if_neg flag]
  cases found : handler.sessionManager_.getSession handler.session_ with
  | none => exact ⟨fun _ => rfl, fun known => absurd ((stateOf_eq_none _ _).mpr found) known⟩
  | some sess =>
      refine ⟨fun missing => ?_, fun _ => ⟨_, rfl, rfl, ?_⟩⟩
      · rw [stateOf_eq_none, found] at missing
        exact absurd missing (Option.some_ne_none sess)
      · rw [handlerDirectory, directoryOf, stateOf_addSession_same _ _ _ (by
          rw [stateOf, found]
          rfl), flag_getAvFlags]
        rfl

/-- The name and the ports are followed by the reply and the store. -/
theorem serveUdp_granted (kind : Method.ofText read.scanned.method = some .SETUP)
    {ports : PortPair} {after : PortManager}
    (returned : portManager.generatePorts environment.attempts = some (.ok (ports, after)))
    (sockets : ¬SocketFails environment) :
    let named := nameSession environment read.scanned.handler
    serveUdp environment read portManager =
      match storeTrack environment (serverAttr read.request environment ports) named with
      | none => (⟨read.scanned.handler, portManager⟩, .output ⟨none, false, .nullSession⟩)
      | some stored =>
          let finished := afterReply ⟨0, handleCmd_SETUP read.scanned.CSeq read.clientRtpPort
            read.clientRtcpPort ports named.session_⟩ stored
          (⟨finished.1, after⟩, .output finished.2) := by
  obtain ⟨created, bound⟩ := not_or.mp sockets
  have setup : build_string read.request environment ⟨read.scanned.handler, portManager⟩ =
      buildUdpSetup read.request environment ⟨read.scanned.handler, portManager⟩ := if_pos kind
  rw [serveUdp]
  simp only [setup, buildUdpSetup, returned, if_neg created, if_neg bound]
  cases storeTrack environment (serverAttr read.request environment ports)
    (nameSession environment read.scanned.handler) with
  | none => rfl
  | some stored => rfl

/-- The directory answers what is stored. -/
theorem stored_answer {stored : RtspHandler} {directory : Directory} (ask : Ask) (ports : PortPair)
    (same : handlerDirectory isOpen stored = directory) :
    let finished := afterReply ⟨0, handleCmd_SETUP read.scanned.CSeq read.clientRtpPort
      read.clientRtcpPort ports stored.session_⟩ stored
    (handlerDirectory isOpen finished.1, finished.2) =
      directory.answer (udpAsk read ask ports) 0 stored.session_ := by
  intro finished
  obtain ⟨after, output⟩ := afterReply_directory isOpen ⟨0, handleCmd_SETUP read.scanned.CSeq
    read.clientRtpPort read.clientRtcpPort ports stored.session_⟩ stored
  subst same
  exact Prod.ext after output

/-- With its ports and its sockets the request leaves the directory as over TCP. -/
theorem serveUdp_setUp (kind : Method.ofText read.scanned.method = some .SETUP)
    (grants : grantsPorts environment portManager = true) (sockets : ¬SocketFails environment) :
    ∃ ports,
      let ask := udpAsk read (askOfScanned read.scanned environment.surroundings track) ports
      let result := serveUdp environment read portManager
      let answer := (handlerDirectory isOpen read.scanned.handler).setUp ask
      handlerDirectory isOpen result.1.handler = answer.1 ∧ result.2 = .output answer.2 := by
  rw [grantsPorts] at grants
  split at grants
  next granted returned =>
    obtain ⟨ports, after⟩ := granted
    refine ⟨ports, ?_⟩
    intro ask result answer
    have served := serveUdp_granted environment read portManager kind returned sockets
    have sessions := nameSession_sessions environment read.scanned.handler
    cases flag : read.scanned.handler.clientFdManager_.flag read.scanned.handler.clientFd_ with
    | false =>
        obtain ⟨clientFd, session, named⟩ := nameSession_new isOpen environment flag
        have first : (nameSession environment read.scanned.handler).clientFdManager_.flag
            (nameSession environment read.scanned.handler).clientFd_ = false := by
          rw [clientFd]
          exact (congrFun (congrArg Directory.flags named) _).trans flag
        obtain ⟨stored, stores, same, states⟩ := storeTrack_first isOpen environment
          (serverAttr read.request environment ports) first
        have made : answer = Directory.answer _ ask 0 ask.created := if_pos flag
        have answered := stored_answer isOpen read
          (askOfScanned read.scanned environment.surroundings track) ports states
        rw [same, session, sessions, named] at answered
        simp only [stores, session] at served
        change result = _ at served
        rw [made, served]
        exact ⟨congrArg Prod.fst answered, congrArg (UdpResult.output ∘ Prod.snd) answered⟩
    | true =>
        obtain ⟨clientFd, session, named⟩ := nameSession_old isOpen environment flag
        have second : (nameSession environment read.scanned.handler).clientFdManager_.flag
            (nameSession environment read.scanned.handler).clientFd_ = true := by
          rw [clientFd]
          exact (congrFun (congrArg Directory.flags named) _).trans flag
        obtain ⟨missing, known⟩ := storeTrack_second isOpen environment
          (serverAttr read.request environment ports) second
        rw [sessions, session] at missing known
        have joins : answer = if stateOf read.scanned.handler.sessionManager_
            (read.scanned.handler.clientFdManager_.sessionId read.scanned.handler.clientFd_) = none
            then _ else _ := if_neg (flag.trans_ne (by decide))
        by_cases found : stateOf read.scanned.handler.sessionManager_
            (read.scanned.handler.clientFdManager_.sessionId read.scanned.handler.clientFd_) = none
        · simp only [missing found] at served
          change result = _ at served
          rw [joins, if_pos found, served]
          exact ⟨rfl, rfl⟩
        · obtain ⟨stored, stores, same, kept⟩ := known found
          have answered := stored_answer isOpen read
            (askOfScanned read.scanned environment.surroundings track) ports (kept.trans named)
          rw [same] at answered
          simp only [stores, session] at served
          change result = _ at served
          rw [joins, if_neg found, served]
          exact ⟨congrArg Prod.fst answered, congrArg (UdpResult.output ∘ Prod.snd) answered⟩
  next => exact absurd grants (by decide)

end Handler

/-- Nothing but the text of the answer depends on the text. -/
theorem setUp_text (directory : Directory) (ask : Ask) (text : Int → List UInt8 → List UInt8) :
    let one := directory.setUp { ask with text }
    let other := directory.setUp ask
    one.1 = other.1 ∧ one.2.media = other.2.media ∧ one.2.exit = other.2.exit ∧
      (one.2.reply = none ∧ other.2.reply = none ∨
        ∃ session, one.2.reply = some ⟨0, text 0 session⟩ ∧
          other.2.reply = some ⟨0, ask.text 0 session⟩) := by
  have finishes (directory : Directory) (first second : Reply) (session : List UInt8) :
      (directory.finish first session).media = (directory.finish second session).media ∧
        (directory.finish first session).exit = (directory.finish second session).exit ∧
        (directory.finish first session).reply = some first := by
    rw [Directory.finish, Directory.finish]
    split_ifs
    · exact ⟨rfl, rfl, rfl⟩
    · cases directory.states session with
      | none => exact ⟨rfl, rfl, rfl⟩
      | some state => exact ⟨rfl, rfl, rfl⟩
  have answers (directory : Directory) (session : List UInt8) :
      let one := directory.answer { ask with text } 0 session
      let other := directory.answer ask 0 session
      one.1 = other.1 ∧ one.2.media = other.2.media ∧ one.2.exit = other.2.exit ∧
        (one.2.reply = none ∧ other.2.reply = none ∨
          ∃ session, one.2.reply = some ⟨0, text 0 session⟩ ∧
            other.2.reply = some ⟨0, ask.text 0 session⟩) := by
    obtain ⟨media, exit, reply⟩ :=
      finishes directory ⟨0, text 0 session⟩ ⟨0, ask.text 0 session⟩ session
    exact ⟨rfl, media, exit, Or.inr ⟨session, reply,
      (finishes directory ⟨0, ask.text 0 session⟩ ⟨0, ask.text 0 session⟩ session).2.2⟩⟩
  intro one other
  simp only [one, other, Directory.setUp]
  split_ifs
  · exact answers _ _
  · exact ⟨rfl, rfl, rfl, Or.inl ⟨rfl, rfl⟩⟩
  · exact answers _ _

section Stage

variable {udp : UdpTables} {tcp : EpollServer} {clientFd : Nat} {received : Received}
  {environment : UdpSurroundings}

/-- The tables play no part in the method and the number of a request. -/
theorem parsed_alike (first second : EpollServer) (clientFd : Nat) (received : List UInt8)
    (surroundings : Surroundings) :
    let one := parseRequest received surroundings (first.handler clientFd surroundings)
    let other := parseRequest received surroundings (second.handler clientFd surroundings)
    one.method = other.method ∧ one.CSeq = other.CSeq := by
  have ofFirst := parseRequest_read received surroundings (first.handler clientFd surroundings)
  have ofSecond := parseRequest_read received surroundings (second.handler clientFd surroundings)
  exact ⟨ofFirst.method.trans ofSecond.method.symm, ofFirst.CSeq.trans ofSecond.CSeq.symm⟩

/-- The directory and the reply of a request for TCP. -/
theorem tcpSetUp_directory (tcp : EpollServer) (clientFd : Nat) (received : List UInt8)
    (surroundings : Surroundings)
    (kind : Method.ofText (parseRequest received surroundings
      (tcp.handler clientFd surroundings)).method = some .SETUP) :
    let scanned := parseRequest received surroundings (tcp.handler clientFd surroundings)
    let ask := askOf clientFd received surroundings
    ((serverDirectory tcp).select ask).setUp ask =
        (serverDirectory (tcp.keep (Rtsp.serve surroundings scanned).1),
          (Rtsp.serve surroundings scanned).2) ∧
      ∀ session, ask.text 0 session = Request.setupReply ⟨surroundings, scanned⟩ session := by
  intro scanned ask
  have done := request_directory tcp clientFd received surroundings
  have made := askOf_eq tcp clientFd received surroundings
  have method : ask.method = some .SETUP := by
    rw [show ask = _ from made]
    exact kind
  change ((serverDirectory tcp).select ask).serve ask = _ at done
  rw [Directory.serve, method] at done
  refine ⟨done, fun session => ?_⟩
  rw [show ask = _ from made]
  simp only [askOfScanned, kind, builtText, replyText]
  rfl

/-- A request that is granted what it asks for is answered alike. -/
theorem receive_alike (same : serverDirectory udp.server = serverDirectory tcp)
    (bytes : received.bytes ≠ []) (connected : udp.server.isOpen clientFd = true)
    (granted : Granted (udpServer.stage udp (.readable clientFd received environment))) :
    let result := udp.receive clientFd received environment
    let other := Rtsp.serve environment.surroundings (parseRequest received.bytes
      environment.surroundings (tcp.handler clientFd environment.surroundings))
    serverDirectory result.1.server = serverDirectory (tcp.keep other.1) ∧
      ∃ output, result.2 = .output output ∧ output.media = other.2.media ∧
        output.exit = other.2.exit ∧
        SameReply (requestOf tcp (.readable clientFd received environment.surroundings))
          output.reply other.2.reply := by
  intro result other
  generalize readEq : parseUdpRequest received.bytes environment.surroundings
    (udp.server.handler clientFd environment.surroundings) = read
  have scanned := parseUdpRequest_scanned received.bytes environment.surroundings
    (udp.server.handler clientFd environment.surroundings)
  rw [readEq] at scanned
  obtain ⟨methods, numbers⟩ := parsed_alike udp.server tcp clientFd received.bytes
    environment.surroundings
  have opened : tcp.isOpen clientFd = true :=
    (congrFun (congrArg Directory.isOpen same) clientFd).symm.trans connected
  have asked : requestOf tcp (.readable clientFd received environment.surroundings) =
      some ⟨environment.surroundings, parseRequest received.bytes environment.surroundings
        (tcp.handler clientFd environment.surroundings)⟩ := if_pos ⟨opened, bytes⟩
  have received_ : result = (⟨udp.server.keep (serveUdp environment read udp.portManager).1.handler,
      (serveUdp environment read udp.portManager).1.portManager_⟩,
        (serveUdp environment read udp.portManager).2) := by
    simp only [result, UdpTables.receive, readEq]
  rw [asked, received_]
  by_cases kind : Method.ofText read.scanned.method = some .SETUP
  · have grants := granted ⟨environment.surroundings, parseRequest received.bytes
      environment.surroundings (udp.server.handler clientFd environment.surroundings)⟩
      (if_pos ⟨connected, bytes⟩) (by rw [Request.method, ← scanned, kind])
    obtain ⟨ports, directory, output⟩ := serveUdp_setUp udp.server.isOpen environment read
      udp.portManager (lastRead trackOn (receivedText received.bytes environment.surroundings))
      kind grants.1 grants.2
    have parsed := parse_directory udp.server clientFd received.bytes environment.surroundings
    rw [same] at parsed
    rw [scanned, ← askOf_eq udp.server, parsed] at directory output
    obtain ⟨done, text⟩ := tcpSetUp_directory tcp clientFd received.bytes environment.surroundings
      (by rw [← methods, ← scanned, kind])
    obtain ⟨directories, media, exit, replies⟩ := setUp_text
      ((serverDirectory tcp).select (askOf clientFd received.bytes environment.surroundings))
      (askOf clientFd received.bytes environment.surroundings) fun _ session =>
        handleCmd_SETUP read.scanned.CSeq read.clientRtpPort read.clientRtcpPort ports session
    rw [done] at directories media exit replies
    refine ⟨directory.trans directories, _, output, media, exit, ⟨?_, ?_⟩⟩
    · intro request member _
      obtain rfl := Option.some.inj member
      rcases replies with silent | ⟨session, one, two⟩
      · exact Or.inl silent
      · refine Or.inr ⟨read.clientRtpPort, read.clientRtcpPort, ports, session, ?_, ?_⟩
        · rw [← numbers, ← scanned]
          exact one
        · rw [← text]
          exact two
    · intro other
      refine absurd ?_ (other _ rfl)
      rw [Request.method, ← methods, ← scanned, kind]
  · have served := serveUdp_other environment read udp.portManager kind
    rw [scanned] at served
    have udpDone := request_directory udp.server clientFd received.bytes environment.surroundings
    have tcpDone := request_directory tcp clientFd received.bytes environment.surroundings
    rw [same] at udpDone
    have equal := udpDone.symm.trans tcpDone
    obtain ⟨directories, outputs⟩ := Prod.mk.inj equal
    rw [served]
    refine ⟨directories, _, rfl, congrArg Output.media outputs, congrArg Output.exit outputs,
      ⟨?_, fun _ => congrArg Output.reply outputs⟩⟩
    intro request member setUp
    obtain rfl := Option.some.inj member
    rw [Request.method, ← methods, ← scanned] at setUp
    exact absurd setUp kind

/-- An event without a request is answered alike when both outputs are the same. -/
theorem SameAnswer.silent {one : UdpStage} {other : ServerStage} (output : Output)
    (ofUdp : one.output = .output output) (ofTcp : other.output = output)
    (unasked : requestOf other.before other.event = none)
    (tables : serverDirectory one.after.server = serverDirectory other.after) :
    SameAnswer one other := by
  refine ⟨tables, output, ofUdp, by rw [ofTcp], by rw [ofTcp], ?_⟩
  rw [unasked, ofTcp]
  exact ⟨fun _ impossible => (nomatch impossible), fun _ => rfl⟩

/-- One event is answered alike, and the directories stay the same. -/
theorem stage_alike {event : UdpEvent} (same : serverDirectory udp.server = serverDirectory tcp)
    (granted : Granted (udpServer.stage udp event)) :
    SameAnswer (udpServer.stage udp event) (epollServer.stage tcp (tcpEvent event)) := by
  have opens : udp.server.isOpen = tcp.isOpen := congrArg Directory.isOpen same
  have closes (clientFd : Nat) : serverDirectory (udp.server.closeFd clientFd) =
      serverDirectory (tcp.closeFd clientFd) := by
    change Directory.close (serverDirectory udp.server) clientFd =
      Directory.close (serverDirectory tcp) clientFd
    rw [same]
  cases event with
  | accept clientFd =>
      refine .silent Output.silent rfl rfl rfl ?_
      have udpDone := accept_directory udp.server clientFd
      have tcpDone := accept_directory tcp clientFd
      rw [same] at udpDone
      have equal := congrArg Prod.fst (udpDone.symm.trans tcpDone)
      refine Eq.trans ?_ equal
      change serverDirectory (if udp.server.isOpen clientFd = true then udp else _).server =
        serverDirectory (if udp.server.isOpen clientFd = true then udp.server else _)
      split_ifs <;> rfl
  | epollError clientFd => exact .silent Output.silent rfl rfl rfl (closes clientFd)
  | readable clientFd received environment =>
      by_cases connected : udp.server.isOpen clientFd = true
      · have opened : ¬tcp.isOpen clientFd = false := by rw [← opens, connected]; decide
        have udpOpened : ¬udp.server.isOpen clientFd = false := by rw [connected]; decide
        by_cases bytes : received.bytes = []
        · have silent : requestOf tcp (.readable clientFd received environment.surroundings) =
              none := if_neg fun both => both.2 bytes
          have udpStep : udpServer.step udp (.readable clientFd received environment) =
              ({ udp with server := udp.server.closeFd clientFd },
                .output ⟨none, false, .returned (-1)⟩) := by
            simp only [udpServer, UdpTables.step, if_neg udpOpened, if_pos bytes]
          have tcpStep : epollServer.step tcp
              (.readable clientFd received environment.surroundings) =
                (tcp.closeFd clientFd, ⟨none, false, .returned (-1)⟩) := by
            simp only [epollServer, EpollServer.step, if_neg opened, handleRequest, if_pos bytes]
            rfl
          refine .silent _ (congrArg Prod.snd udpStep) (congrArg Prod.snd tcpStep) silent ?_
          simp only [Machine.stage, udpStep, tcpEvent, tcpStep]
          exact closes clientFd
        · obtain ⟨directories, answers⟩ := receive_alike same bytes connected granted
          have udpStep : udpServer.step udp (.readable clientFd received environment) =
              udp.receive clientFd received environment := by
            simp only [udpServer, UdpTables.step, if_neg udpOpened, if_neg bytes]
          have tcpStep : epollServer.step tcp
              (.readable clientFd received environment.surroundings) =
                let result := Rtsp.serve environment.surroundings (parseRequest received.bytes
                  environment.surroundings (tcp.handler clientFd environment.surroundings))
                (tcp.keep result.1, result.2) := by
            simp only [epollServer, EpollServer.step, if_neg opened, handleRequest, if_neg bytes]
          constructor
          · simp only [Machine.stage, udpStep, tcpEvent, tcpStep]
            exact directories
          · simp only [Machine.stage, udpStep, tcpEvent, tcpStep]
            exact answers
      · have closed : udp.server.isOpen clientFd = false := Bool.eq_false_iff.mpr connected
        have tcpClosed : tcp.isOpen clientFd = false := by rw [← opens, closed]
        have udpStep : udpServer.step udp (.readable clientFd received environment) =
            (udp, .output Output.silent) := if_pos closed
        have tcpStep : epollServer.step tcp
            (.readable clientFd received environment.surroundings) = (tcp, Output.silent) :=
          if_pos tcpClosed
        have silent : requestOf tcp (.readable clientFd received environment.surroundings) =
            none := if_neg fun both => absurd (tcpClosed.symm.trans both.1) (by decide)
        refine .silent _ (congrArg Prod.snd udpStep) (congrArg Prod.snd tcpStep) silent ?_
        simp only [Machine.stage, udpStep, tcpEvent, tcpStep]
        exact same

/-- A null session ends both. -/
theorem SameAnswer.halts {one : UdpStage} {other : ServerStage} (answer : SameAnswer one other) :
    udpServer.halts one.output = epollServer.halts other.output := by
  obtain ⟨output, given, _, exit, _⟩ := answer.output
  rw [given]
  change decide (output.exit = .nullSession) = decide (other.output.exit = .nullSession)
  rw [exit]

end Stage

/-- While its SETUP requests are granted, the server for UDP answers every request of a run as the
server for TCP does, and only the replies to SETUP differ. -/
theorem udpServer_alike (events : List UdpEvent)
    (granted : ∀ now ∈ udpServer.run UdpTables.start events, Granted now) :
    List.Forall₂ SameAnswer (udpServer.run UdpTables.start events)
      (epollServer.run EpollServer.start (events.map tcpEvent)) :=
  Machine.run_related tcpEvent (fun udp tcp => serverDirectory udp.server = serverDirectory tcp)
    Granted SameAnswer
    (fun udp tcp event same grants => by
      have answer := @stage_alike udp tcp event same grants
      exact ⟨answer, answer.halts, answer.tables⟩)
    (show serverDirectory UdpTables.start.server = serverDirectory EpollServer.start from rfl)
    events granted

instance (environment : UdpSurroundings) : Decidable (SocketFails environment) :=
  inferInstanceAs (Decidable ((_ ∨ _) ∨ _))

instance : DecidablePred Granted
  | ⟨_, .accept _, _, _⟩ => .isTrue trivial
  | ⟨_, .epollError _, _, _⟩ => .isTrue trivial
  | ⟨_, .readable _ _ _, _, _⟩ => inferInstanceAs (Decidable (∀ request ∈ udpRequestOf _ _, _))

/-- The operating system grants one draw and both sockets. -/
def grantedSurroundings (draw : Draw) : UdpSurroundings where
  surroundings := emptySurroundings
  attempts := [⟨draw, .bound, .bound⟩]
  serverRtpSockfd := 7
  serverRtcpSockfd := 8
  rtpBound := true
  rtcpBound := true

/-- One client sets up both tracks over UDP and plays them. -/
def udpPlayback : List UdpEvent :=
  [.accept 5,
    .readable 5 (receivedLines ["SETUP rtsp://h/track0 RTSP/1.0", "CSeq: 3",
      "Transport: RTP/AVP/UDP;unicast;client_port=5000-5001"])
      (grantedSurroundings ⟨56101, by decide, by decide⟩),
    .readable 5 (receivedLines ["SETUP rtsp://h/track1 RTSP/1.0", "CSeq: 4",
      "Transport: RTP/AVP/UDP;unicast;client_port=5002-5003"])
      (grantedSurroundings ⟨61000, by decide, by decide⟩),
    .readable 5 (receivedLines ["PLAY rtsp://h/ RTSP/1.0", "CSeq: 5",
      "Session: 00000000000000000000000000000000"])
      (grantedSurroundings ⟨61000, by decide, by decide⟩)]

theorem udpServer_alike_playback :
    List.Forall₂ SameAnswer (udpServer.run UdpTables.start udpPlayback)
      (epollServer.run EpollServer.start (udpPlayback.map tcpEvent)) :=
  udpServer_alike udpPlayback (by decide +kernel)

end FzServer.Server
