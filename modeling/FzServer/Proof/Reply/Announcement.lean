import FzServer.Proof.Parsing.Indeterminate
import FzServer.Proof.Reply.Builders
import FzServer.Proof.Session.ConcurrentClients
import FzServer.Proof.Streaming.Threads

/-
This file compares the announced channels with the channels of the media threads.
-/

namespace FzServer.Replies

open Foundation Sessions Rtsp Server Parsing Media Streaming

/-- The parameter of the transport holds the two channels of the pair. -/
def interleavedPair (transport : List UInt8) : Option (Nat × Nat) :=
  ((transport.splitOn 0x3B).findSome? (scanLiteral (ascii "interleaved="))).bind fun pair =>
    match pair.splitOn 0x2D with
    | [first, second] => some (decimalValue first, decimalValue second)
    | _ => none

/-- The first track is the video track. -/
def trackOf (second : Bool) : TrackName := if second then .audio else .video

/-- These are the buffers of the thread that sends the track. -/
def threadBuffers (track : TrackName) (run : MediaRun) : List (List UInt8) :=
  match track with
  | .video => run.video.sender.socket.sent
  | .audio => run.audio.sender.socket.sent

/-- Whatever the files hold, the track is sent on this channel. -/
def SendsOn (track : TrackName) (channel : Nat) : Prop :=
  ∃ byte : UInt8, byte.toNat = channel ∧ ∀ source, ∃ run, sendH264AacOverTcp source = some run ∧
    ∀ buffer ∈ threadBuffers track run, OnChannel byte buffer

/-- The video thread sends on channel 0, and the audio thread sends on channel 2. -/
theorem sendsOn_track (second : Bool) : SendsOn (trackOf second) (if second then 2 else 0) := by
  cases second with
  | false =>
      refine ⟨0x00, rfl, fun source => ?_⟩
      obtain ⟨run, ran, _, video⟩ := sendH264AacOverTcp_channels source
      exact ⟨run, ran, video⟩
  | true =>
      refine ⟨0x02, rfl, fun source => ?_⟩
      obtain ⟨run, ran, audio, _⟩ := sendH264AacOverTcp_channels source
      exact ⟨run, ran, audio⟩

/-- This is a SETUP request that names one of the two tracks. -/
structure TrackRequest where
  clientFd : Nat
  lines : List (List UInt8)
  second : Bool

def trackRequest : Event → Option TrackRequest
  | .readable clientFd received surroundings =>
      let lines := receivedText received.bytes surroundings
      if dispatched lines = some .SETUP then
        (lastRead trackOn lines).map fun second => ⟨clientFd, lines, second⟩
      else none
  | _ => none

/-- The message accepts the track in a session of the descriptor and announces its channels. -/
structure Announces (asked : TrackRequest) (after : EpollServer) (message : Message) : Prop where
  status : ascii "RTSP/1.0 200" <+: statusLine message
  number : ∀ number, requestNumber asked.lines = some number →
    responseNumber message = some number
  session : ∃ session sess, message.field (ascii "Session") = some session ∧
    after.clientFdManager.sessionId asked.clientFd = session ∧
    after.sessionManager.getSession session = some sess ∧
    (sess.info (trackOf asked.second)).isSome = true
  channels : ∃ transport channel, message.field (ascii "Transport") = some transport ∧
    interleavedPair transport = some (channel, channel + 1) ∧ SendsOn (trackOf asked.second) channel

/-- Each SETUP request that succeeds gets one response, which announces its track. -/
def AnnouncesTracks (_ : Unit) (now : ServerStage) : Prop :=
  ∀ asked, trackRequest now.event = some asked → answered200 now.output = true →
    ∃ reply message, now.output.reply = some reply ∧
      messageCodec.decode reply.text = some (message, []) ∧ Announces asked now.after message

/-- The first track has the number three and the second track has the number four, unless the
request reaches no handler or joins no session. -/
def NumberedByTrack (_ : Unit) (now : ServerStage) : Prop :=
  ∀ asked ∈ trackRequest now.event, now.before.isOpen asked.clientFd = true →
    (asked.second = true → now.before.sessionManager.getSession
      (now.before.clientFdManager.sessionId asked.clientFd) ≠ none) →
    requestNumber asked.lines = some (if asked.second then 4 else 3)

/-- A client finds the session and the channels in their fields. -/
theorem setupReply_fields (channels : List UInt8) (CSeq : Int) {session : List UInt8}
    (solid : Solid session) (plain : 0x0A ∉ channels) :
    (setupReply channels CSeq session).field (ascii "Session") = some session ∧
      (setupReply channels CSeq session).field (ascii "Transport") =
        some (ascii "RTP/AVP/TCP;unicast;interleaved=" ++ channels) := by
  have fields : ∀ field ∈ [(ascii "Transport", ascii "RTP/AVP/TCP;unicast;interleaved=" ++ channels),
      (ascii "Session", session)], PlainField field := by
    simpa [PlainField, ascii, plain] using solid.unbroken.1
  have session_ := fieldOf_replyMessage okLine CSeq [] (ascii "Session") (by decide) fields
  have transport := fieldOf_replyMessage okLine CSeq [] (ascii "Transport") (by decide) fields
  constructor
  · rw [setupReply, session_]
    simp [ascii, lowercase, solid.dropWhile]
  · rw [setupReply, transport]
    simp [ascii, lowercase, isspace]

/-- The reader takes a response off the text and leaves nothing over. -/
theorem Responds.decodes {text : List UInt8} {CSeq : Int} {message : Message}
    (responds : Responds text CSeq message) : messageCodec.decode text = some (message, []) := by
  rw [← responds.encodes]
  have decoded := messageCodec.decode_encode message [] responds.valid
  rwa [List.append_nil] at decoded

/-- Under the right number the reply is the announcement of the track. -/
theorem announcement (request : Request) (second : Bool) {session : List UInt8}
    (number : request.scanned.CSeq = if second then 4 else 3) (solid : Solid session) :
    ∃ message transport, Responds (request.setupReply session) (if second then 4 else 3) message ∧
      ascii "RTSP/1.0 200" <+: statusLine message ∧
      message.field (ascii "Session") = some session ∧
      message.field (ascii "Transport") = some transport ∧
      interleavedPair transport = some (if second then (2, 3) else (0, 1)) := by
  obtain ⟨three, four⟩ := SETUP_responds (cstring request.surroundings.sBuf) solid.unbroken.1
  have status : ascii "RTSP/1.0 200" <+: okLine := by decide
  rw [Request.setupReply, number]
  cases second with
  | false =>
      obtain ⟨named, transport⟩ := setupReply_fields (ascii "0-1") 3 solid (by decide)
      exact ⟨_, _, three, status, named, transport, by decide⟩
  | true =>
      obtain ⟨named, transport⟩ := setupReply_fields (ascii "2-3") 4 solid (by decide)
      exact ⟨_, _, four, status, named, transport, by decide⟩

/-- The end of a connection holds no line. -/
theorem receivedText_nil (surroundings : Surroundings) : receivedText [] surroundings = [] := by
  rw [receivedText, bufferText, if_pos (by decide)]
  rfl

section Stage

variable {server : EpollServer} {event : Event} {asked : TrackRequest}

/-- The lines of a received text dispatch to SETUP and name the track. -/
theorem trackRequest_readable (setup : trackRequest event = some asked) :
    ∃ clientFd received surroundings, event = .readable clientFd received surroundings ∧
      asked.clientFd = clientFd ∧ asked.lines = receivedText received.bytes surroundings ∧
      dispatched asked.lines = some .SETUP ∧ lastRead trackOn asked.lines = some asked.second := by
  cases event with
  | accept clientFd => exact absurd setup (by simp [trackRequest])
  | epollError clientFd => exact absurd setup (by simp [trackRequest])
  | readable clientFd received surroundings =>
      rw [trackRequest] at setup
      split_ifs at setup with kind
      obtain ⟨second, track, rfl⟩ := Option.map_eq_some_iff.mp setup
      exact ⟨clientFd, received, surroundings, rfl, rfl, rfl, kind, track⟩

/-- The handler finds the method, the track, and the number of the request. -/
theorem trackRequest_request (setup : trackRequest event = some asked)
    (connected : server.isOpen asked.clientFd = true) :
    ∃ request, requestOf server event = some request ∧ request.clientFd = asked.clientFd ∧
      request.method = some .SETUP ∧ request.second = asked.second ∧
      request.scanned.CSeq = (lastRead numberOn asked.lines).getD (-1) := by
  obtain ⟨clientFd, received, surroundings, rfl, same, lines, kind, track⟩ :=
    trackRequest_readable setup
  rw [same] at connected
  rw [lines] at kind track
  have bytes : received.bytes ≠ [] := by
    intro empty
    rw [empty, receivedText_nil] at kind
    exact absurd kind (by decide)
  have read := parseRequest_read received.bytes surroundings (server.handler clientFd surroundings)
  refine ⟨⟨surroundings, parseRequest received.bytes surroundings
    (server.handler clientFd surroundings)⟩, if_pos ⟨connected, bytes⟩, ?_, ?_, ?_, ?_⟩
  · rw [Request.clientFd, read.handler, same]
    rfl
  · rw [dispatched, Option.bind_eq_some_iff] at kind
    obtain ⟨method, known, supported⟩ := kind
    rw [Request.method, read.method, known, Option.getD_some]
    exact supported
  · rw [Request.second, Request.clientFd, read.handler, track]
    simp [selectTrack, ClientFdManager.setAvFlags, ClientFdManager.flag, Scanned.init,
      EpollServer.handler]
  · rw [lines]
    exact read.CSeq

/-- Only an open descriptor gets an answer. -/
theorem trackRequest_connected (setup : trackRequest event = some asked)
    (answered : answered200 (epollServer.stage server event).output = true) :
    server.isOpen asked.clientFd = true := by
  obtain ⟨clientFd, received, surroundings, rfl, same, _⟩ := trackRequest_readable setup
  rw [same]
  by_contra closed
  rw [Bool.not_eq_true] at closed
  have silent : (epollServer.stage server (.readable clientFd received surroundings)).output =
      Output.silent := by
    simp [Machine.stage, epollServer, EpollServer.step, closed]
  rw [silent] at answered
  exact absurd answered (by decide)

/-- The reply and the session of a SETUP request that succeeds are those of its track. -/
theorem setup_succeeds {request : Request} (found : requestOf server event = some request)
    (setup : request.method = some .SETUP)
    (answered : answered200 (epollServer.stage server event).output = true) :
    ∃ session sess, (epollServer.stage server event).output.reply =
        some ⟨0, request.setupReply session⟩ ∧
      (epollServer.stage server event).after.clientFdManager.sessionId request.clientFd = session ∧
      (epollServer.stage server event).after.sessionManager.getSession session = some sess ∧
      (sess.info (trackOf request.second)).isSome = true ∧
      (request.second = true → server.sessionManager.getSession
        (server.clientFdManager.sessionId request.clientFd) ≠ none) := by
  have served := stage_serves found
  cases track : request.second with
  | false =>
      have creates : request.creates := ⟨setup, track⟩
      obtain ⟨⟨sess, stored, _, video⟩, _⟩ := creates_session found creates
      refine ⟨request.created, sess, creates_reply found creates, ?_, stored, video,
        fun impossible => absurd impossible Bool.false_ne_true⟩
      rw [stage_clientFds found (built_creates request creates)]
      exact ClientFdManager.sessionId_setSessionIds _ _ _
  | true =>
      have attaches : request.attaches := ⟨setup, track⟩
      cases served with
      | lost _ _ _ silent =>
          rw [silent] at answered
          exact absurd answered (by decide)
      | answered reply session answers sent media exit =>
          have known := answers.attached attaches
          obtain ⟨sess, joined⟩ := Option.ne_none_iff_exists'.mp
            (mt (stateOf_eq_none server.sessionManager _).mpr known)
          obtain ⟨text, ⟨after, stored, _, _, audio⟩, _⟩ := attaches_session found attaches joined
          have ids := answers.ids request.clientFd
          rw [if_neg fun both => request.not_creates_of_attaches attaches both.1] at ids
          exact ⟨_, after, text, ids, stored, audio,
            fun _ => (Option.some_ne_none sess) ∘ joined.symm.trans⟩

end Stage

/-- Under the condition each stage announces the track. -/
theorem announcesTracks_stage {server : EpollServer} {event : Event}
    (solid : SolidNames server.view) (numbered : NumberedByTrack () (epollServer.stage server event)) :
    AnnouncesTracks () (epollServer.stage server event) := by
  intro asked setup answered
  have connected := trackRequest_connected setup answered
  obtain ⟨request, found, clientFd, method, second, number⟩ := trackRequest_request setup connected
  obtain ⟨session, sess, sent, named, stored, track, joins⟩ := setup_succeeds found method answered
  rw [clientFd] at named joins
  rw [second] at track joins
  have written := numbered asked setup connected joins
  have stores : request.scanned.CSeq = if asked.second then 4 else 3 := by
    rw [number, lastRead_numberOn, written]
    cases asked.second <;> rfl
  have solidSession : Solid session := by
    have after := (stage_solidNames solid : SolidNames (epollServer.stage server event).after.view)
    have name := after.ids asked.clientFd
    rwa [show (epollServer.stage server event).after.view.ids asked.clientFd = session from named]
      at name
  obtain ⟨message, transport, responds, status, sessionField, transportField, pair⟩ :=
    announcement request asked.second stores solidSession
  refine ⟨_, message, sent, responds.decodes, status, ?_, ?_, ?_⟩
  · intro other asked
    rw [written, Option.some.injEq] at asked
    rw [responds.number, asked]
  · exact ⟨session, sess, sessionField, named, stored, track⟩
  · refine ⟨transport, if asked.second then 2 else 0, transportField, ?_, sendsOn_track _⟩
    rw [pair]
    cases asked.second <;> rfl

/-- The announced channels are the channels used, in every run that numbers its tracks so. -/
theorem announcesTracks_run (events : List Event)
    (numbered : epollServer.Always (fun _ _ => ()) () EpollServer.start events NumberedByTrack) :
    epollServer.Always (fun _ _ => ()) () EpollServer.start events AnnouncesTracks :=
  Machine.always_of_invariant (fun _ server => SolidNames server.view)
    (fun _ _ _ solid numbered => announcesTracks_stage solid numbered)
    (fun _ _ _ solid _ _ => stage_solidNames solid) events () _ SolidNames.start numbered

instance (history : Unit) (now : ServerStage) : Decidable (NumberedByTrack history now) :=
  inferInstanceAs (Decidable (∀ asked ∈ trackRequest now.event, _))

/-- One client sets up both tracks. -/
theorem announcesTracks_run_both :
    epollServer.Always (fun _ _ => ()) () EpollServer.start
      [.accept 5, sampleRequest 5 ["SETUP rtsp://h/track0 RTSP/1.0", "CSeq: 3"],
        sampleRequest 5 ["SETUP rtsp://h/track1 RTSP/1.0", "CSeq: 4"]] AnnouncesTracks :=
  announcesTracks_run _ (by decide +kernel)

/-- A first track with the number two gets no response. -/
theorem announcesTracks_fails :
    ¬epollServer.Always (fun _ _ => ()) () EpollServer.start
      [.accept 5, sampleRequest 5 ["SETUP rtsp://h/track0 RTSP/1.0", "CSeq: 2"]]
      AnnouncesTracks := by
  intro always
  have second := always _ (List.mem_cons_of_mem _ List.mem_cons_self)
  obtain ⟨reply, message, sent, decoded, _⟩ := second _ rfl (by decide +kernel)
  have empty : some reply = some ⟨0, []⟩ := sent.symm.trans (by decide +kernel)
  rw [Option.some.inj empty] at decoded
  exact absurd decoded (by simp [messageCodec, decodeMessage, readHead])

end FzServer.Replies
