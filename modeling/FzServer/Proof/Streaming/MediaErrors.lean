import FzServer.Construction.Rtsp.MediaRequest
import FzServer.Proof.Session.Requests
import FzServer.Proof.Streaming.Threads
import FzServer.Proof.Streaming.Truncation
import FzServer.Proof.Streaming.VideoFile

/-
This file follows the errors of the media threads to the callers.
-/

namespace FzServer.Streaming

open Foundation Rtp H264 Aac Media Packetisation Sessions Rtsp

section Sockets

/-- The call at this place of the log failed. -/
def FailsAt (socket : Socket) (place : Nat) : Prop :=
  ∃ buffer ∈ socket.sent[place]?, socket.results place buffer < 0

/-- A call that failed is the last one. -/
def StopsAtFailure (socket : Socket) : Prop :=
  ∀ place, FailsAt socket place → socket.sent.length = place + 1

/-- Every call so far succeeded. -/
def AllTaken (socket : Socket) : Prop := Takes socket.results 0 socket.sent

theorem takes_getElem {results : Nat → List UInt8 → Int} {start place : Nat}
    {buffers : List (List UInt8)} {buffer : List UInt8} (takes : Takes results start buffers)
    (stands : buffers[place]? = some buffer) : 0 ≤ results (start + place) buffer := by
  induction buffers generalizing start place with
  | nil => nomatch stands
  | cons first buffers ih =>
      cases place with
      | zero =>
          cases stands
          exact takes.1
      | succ place =>
          have behind := ih takes.2 stands
          rwa [Nat.add_assoc, Nat.add_comm 1] at behind

theorem AllTaken.stops {socket : Socket} (taken : AllTaken socket) : StopsAtFailure socket := by
  rintro place ⟨buffer, stands, fails⟩
  have takes := takes_getElem taken stands
  rw [Nat.zero_add] at takes
  exact absurd fails (Int.not_lt.mpr takes)

variable {frame : List UInt8 → List UInt8} {payloads : List (List UInt8)} {before after : Sender}

/-- The calls of a delivery succeeded too. -/
theorem AllTaken.delivers (taken : AllTaken before.socket)
    (delivers : Delivers frame payloads before after) : AllTaken after.socket := by
  rw [AllTaken, delivers.sent, delivers.results, takes_append, Nat.zero_add]
  exact ⟨taken, delivers.accepts⟩

/-- Only the last call of a refusal failed. -/
theorem AllTaken.refuses (taken : AllTaken before.socket)
    (refuses : Refuses frame payloads before after) : StopsAtFailure after.socket := by
  obtain ⟨results, accepted, last, rest, _, sent, takes, _⟩ := refuses
  have front : Takes before.socket.results 0 (before.socket.sent ++ accepted) := by
    rw [takes_append, Nat.zero_add]
    exact ⟨taken, takes⟩
  rintro place ⟨buffer, stands, fails⟩
  rw [results] at fails
  rw [sent] at stands ⊢
  rcases Nat.lt_or_ge place (before.socket.sent ++ accepted).length with inside | behind
  · rw [List.getElem?_append_left inside] at stands
    have succeeds := takes_getElem front stands
    rw [Nat.zero_add] at succeeds
    exact absurd fails (Int.not_lt.mpr succeeds)
  · have bound := (List.getElem?_eq_some_iff.mp stands).1
    rw [List.length_append, List.length_singleton] at bound ⊢
    omega

end Sockets

section VideoTurn

variable {state : VideoState} (taken : AllTaken state.sender.socket)

include taken

/-- A unit that was sent has failed at no packet. -/
theorem videoTurn_taken {next : VideoState} (on : videoTurn sendManagerTcp state = .inr next) :
    AllTaken next.sender.socket := by
  obtain ⟨found, moved, _, _, sent, rfl⟩ := videoTurn_goes on
  rcases sendManagerWith_outcome (tcpFrame 0x00) state.sender state.unit (found - state.step) with
    ⟨negative, _⟩ | ⟨_, middle, delivers, result⟩
  · exact absurd negative sent
  · have socket : (state.next sendManagerTcp found moved).sender.socket = middle.socket := by
      rw [show (state.next sendManagerTcp found moved).sender = _ from result]
      rfl
    rw [socket]
    exact taken.delivers delivers

/-- A unit stops at its first packet that fails, and so does the loop. -/
theorem videoTurn_refused {run : VideoRun} (leaves : videoTurn sendManagerTcp state = .inl run) :
    StopsAtFailure run.sender.socket := by
  rcases videoTurn_stops leaves with ⟨_, rfl⟩ | ⟨_, _, rfl⟩ | ⟨found, moved, _, _, failed, rfl⟩
  · exact taken.stops
  · exact taken.stops
  · rcases sendManagerWith_outcome (tcpFrame 0x00) state.sender state.unit (found - state.step) with
      ⟨_, refuses⟩ | ⟨positive, _⟩
    · exact taken.refuses refuses
    · exact absurd (failed ▸ positive : (0 : Int) ≤ -1) (by decide)

end VideoTurn

section Video

/-- The video track sends nothing behind a failure. -/
structure VideoStops (source : MediaSource) (run : VideoRun) : Prop where
  missing : source.h264File = none → run.sender.socket.sent = []
  malformed : ∀ content, source.h264File = some content → ∀ state,
    Visits (videoTurn sendManagerTcp) (videoStart content source.h264Heap source.h264PacketHeap
      ⟨source.h264Results, []⟩) state →
    state.chunk ≠ [] → state.cut = none → run.sender = state.sender
  refused : StopsAtFailure run.sender.socket

theorem sendH264OverTcp_stops {source : MediaSource} {run : VideoRun}
    (ran : sendH264OverTcp source.h264File source.h264Heap source.h264PacketHeap
      ⟨source.h264Results, []⟩ = some run) : VideoStops source run := by
  cases file : source.h264File with
  | none =>
      rw [file] at ran
      cases ran
      refine ⟨fun _ => rfl, fun _ present => ?_, AllTaken.stops trivial⟩
      rw [file] at present
      nomatch present
  | some content =>
      rw [file] at ran
      rw [sendH264OverTcp, sendH264Over_eq_loop] at ran
      refine ⟨fun missing => ?_, fun other same state visits filled uncut => ?_, ?_⟩
      · rw [file] at missing
        nomatch missing
      · rw [file] at same
        cases same
        obtain ⟨ended, _⟩ | ⟨_, _, now⟩ | ⟨found, moved, _, cut, _⟩ :=
          videoTurn_cases sendManagerTcp state
        · exact absurd ended filled
        · obtain ⟨less, rest⟩ := visits.loop ran
          rw [loop_stops now rest]
          rfl
        · nomatch cut.symm.trans uncut
      · have fresh : AllTaken (videoStart content source.h264Heap source.h264PacketHeap
            ⟨source.h264Results, []⟩).sender.socket := trivial
        exact loop_results (fun state : VideoState => AllTaken state.sender.socket)
          (fun run => StopsAtFailure run.sender.socket)
          (fun _ _ taken on => videoTurn_taken taken on)
          (fun _ _ taken leaves => videoTurn_refused taken leaves) fresh ran

end Video

section Audio

/-- A track without a file sends nothing, and a call that failed is the last one. -/
structure AudioStops (source : MediaSource) (run : AudioRun) : Prop where
  missing : source.aacFile = none → run.sender.socket.sent = []
  refused : StopsAtFailure run.sender.socket

/-- The track makes the same calls with the same frames, whatever the calls return. -/
def AudioContinues (source : MediaSource) (run : AudioRun) : Prop :=
  ∀ results, ∃ other, sendAacOverTcp source.aacFile source.aacHeap source.aacPacketHeap
      ⟨results, []⟩ = some other ∧
    other.calls = run.calls ∧ other.sender.socket.sent.length = run.sender.socket.sent.length

/-- One call makes one packet. -/
theorem rtpSendAACFrameTcp_log (sender : Sender) (raw : Memory UInt8) (frameSize : UInt32) :
    (rtpSendAACFrameTcp sender raw frameSize).2.socket.sent.length =
      sender.socket.sent.length + 1 := by
  rw [rtpSendAACFrameTcp, rtpSendAACFrameWith]
  simp only [rtpSendPacketOverTcp, transmit_eq]
  split_ifs <;> simp [Socket.send, Sender.withHeader, Sender.withPayload]

/-- The turns do not depend on the sender. -/
theorem audioTurn_withSender (send : Sender → Memory UInt8 → UInt32 → Int × Sender)
    (state : AudioState) (sender : Sender) :
    (∀ next, audioTurn send state = .inr next →
        audioTurn send { state with sender } =
          .inr { next with sender := (send sender state.raw state.frameSize).2 }) ∧
      ∀ run, audioTurn send state = .inl run →
        audioTurn send { state with sender } = .inl { run with sender } := by
  have same : audioTurn send { state with sender } =
      if readSize state.head ≤ 0 then .inl { state.stopped with sender }
      else if state.parsed.1 = -1 then .inl { state.stopped with sender }
      else if readSize state.body ≤ 0 then .inl { state.stopped with sender }
      else .inr { state.next send with sender := (send sender state.raw state.frameSize).2 } := rfl
  rw [same, audioTurn]
  constructor
  · intro next on
    split_ifs at on ⊢
    cases on
    rfl
  · intro run leaves
    split_ifs at leaves ⊢ <;> cases leaves <;> rfl

theorem sendAacOverTcp_log {file : Option (List UInt8)} {heap : Memory UInt8}
    {packetHeap : RtpPacket} {results : Nat → List UInt8 → Int} {run : AudioRun}
    (ran : sendAacOverTcp file heap packetHeap ⟨results, []⟩ = some run) :
    run.sender.socket.sent.length = run.calls.length := by
  cases file with
  | none =>
      cases ran
      rfl
  | some content =>
      rw [sendAacOverTcp, sendAacOver_eq_loop] at ran
      refine loop_results
        (fun state : AudioState => state.sender.socket.sent.length = state.calls.length)
        (fun run => run.sender.socket.sent.length = run.calls.length)
        (fun state next same on => ?_) (fun state run same leaves => ?_) rfl ran
      · obtain ⟨_, rfl⟩ := audioTurn_goes on
        rw [AudioState.next, rtpSendAACFrameTcp_log, same, List.length_append,
          List.length_singleton]
      · rw [audioTurn_stops leaves]
        exact same

theorem sendAacOverTcp_continues {source : MediaSource} {run : AudioRun}
    (ran : sendAacOverTcp source.aacFile source.aacHeap source.aacPacketHeap
      ⟨source.aacResults, []⟩ = some run) : AudioContinues source run := by
  intro results
  have other : ∃ other, sendAacOverTcp source.aacFile source.aacHeap source.aacPacketHeap
      ⟨results, []⟩ = some other ∧ other.calls = run.calls := by
    cases file : source.aacFile with
    | none =>
        rw [file] at ran
        cases ran
        exact ⟨_, rfl, rfl⟩
    | some content =>
        rw [file, sendAacOverTcp, sendAacOver_eq_loop] at ran
        rw [sendAacOverTcp, sendAacOver_eq_loop]
        exact loop_related (fun state other : AudioState => ∃ sender, other = { state with sender })
          (fun run other : AudioRun => other.calls = run.calls)
          (fun state other next alike on => by
            obtain ⟨sender, rfl⟩ := alike
            exact ⟨_, (audioTurn_withSender _ state sender).1 next on, _, rfl⟩)
          (fun state other run alike leaves => by
            obtain ⟨sender, rfl⟩ := alike
            exact ⟨_, (audioTurn_withSender _ state sender).2 run leaves, rfl⟩)
          ⟨_, rfl⟩ ran
  obtain ⟨other, otherRan, same⟩ := other
  refine ⟨other, otherRan, same, ?_⟩
  rw [sendAacOverTcp_log otherRan, sendAacOverTcp_log ran, same]

end Audio

section Callers

/-- The content is no sequence of NAL units. -/
def Malformed (content : List UInt8) : Prop := ∀ units, encodeFile units ≠ content

/-- A file is missing or malformed, or a call of either track failed. -/
def MediaFails (source : MediaSource) (run : MediaRun) : Prop :=
  source.aacFile = none ∨ source.h264File = none ∨
    (∃ content, source.h264File = some content ∧ Malformed content) ∨
    (∃ place, FailsAt run.audio.sender.socket place) ∨
    ∃ place, FailsAt run.video.sender.socket place

/-- Both tracks stop at their failures, and both callers see an error. -/
structure Reported (source : MediaSource) (run : MediaRun) (result : Int) (exit : Exit) :
    Prop where
  audio : AudioStops source run.audio
  video : VideoStops source run.video
  media : result = -1
  request : exit = .returned (-1)

theorem sendH264AacOverTcp_ran {source : MediaSource} {run : MediaRun}
    (ran : sendH264AacOverTcp source = some run) :
    sendAacOverTcp source.aacFile source.aacHeap source.aacPacketHeap ⟨source.aacResults, []⟩ =
        some run.audio ∧
      sendH264OverTcp source.h264File source.h264Heap source.h264PacketHeap
        ⟨source.h264Results, []⟩ = some run.video := by
  rw [sendH264AacOverTcp, Option.bind_eq_some_iff] at ran
  obtain ⟨audio, audioRan, rest⟩ := ran
  rw [Option.map_eq_some_iff] at rest
  obtain ⟨video, videoRan, rfl⟩ := rest
  exact ⟨audioRan, videoRan⟩

/-- A request that starts the threads returns 0 behind them. -/
theorem afterReplyOver_eq (source : MediaSource) (reply : Reply) (handler : RtspHandler) :
    ∃ media, afterReplyOver source reply handler =
        some ⟨(afterReply reply handler).1, (afterReply reply handler).2, media⟩ ∧
      ∀ run ∈ media, sendH264AacOverTcpResult source = some (0, run) ∧
        (afterReply reply handler).2.exit = .returned 0 := by
  obtain ⟨run, ran, _⟩ := sendH264AacOverTcp_channels source
  have joined : sendH264AacOverTcpResult source = some (0, run) := by
    rw [sendH264AacOverTcpResult, ran]
    rfl
  rw [afterReplyOver, afterReply, joined]
  split_ifs
  · exact ⟨none, rfl, fun _ absent => (Option.not_mem_none _ absent).elim⟩
  cases handler.sessionManager_.getSession handler.session_ with
  | none => exact ⟨none, rfl, fun _ absent => (Option.not_mem_none _ absent).elim⟩
  | some ss =>
      dsimp only
      cases ss.state_ with
      | PLAYING =>
          refine ⟨some run, rfl, fun other same => ?_⟩
          cases same
          exact ⟨rfl, rfl⟩
      | NONE => exact ⟨none, rfl, fun _ absent => (Option.not_mem_none _ absent).elim⟩
      | PAUSE => exact ⟨none, rfl, fun _ absent => (Option.not_mem_none _ absent).elim⟩
      | TEARDOWN => exact ⟨none, rfl, fun _ absent => (Option.not_mem_none _ absent).elim⟩
      | unnamed bits => exact ⟨none, rfl, fun _ absent => (Option.not_mem_none _ absent).elim⟩

/-- The answer is that of the handler without the threads. -/
theorem handleRequestOver_eq (source : MediaSource) (received : Received)
    (surroundings : Surroundings) (handler : RtspHandler) :
    let answer := handleRequest received surroundings handler
    ∃ media, handleRequestOver source received surroundings handler =
        some ⟨answer.1, answer.2, media⟩ ∧
      ∀ run ∈ media, sendH264AacOverTcpResult source = some (0, run) ∧
        answer.2.exit = .returned 0 := by
  rw [handleRequestOver, handleRequest]
  split_ifs
  · exact ⟨none, rfl, fun _ absent => (Option.not_mem_none _ absent).elim⟩
  rw [serveOver, serve]
  cases build_string_tcp surroundings (parseRequest received.bytes surroundings handler).handler
      (parseRequest received.bytes surroundings handler).CSeq
      (parseRequest received.bytes surroundings handler).method
      (parseRequest received.bytes surroundings handler).url with
  | none => exact ⟨none, rfl, fun _ absent => (Option.not_mem_none _ absent).elim⟩
  | some built => exact afterReplyOver_eq source _ built.handler

/-- No failure reaches a caller. The video track stops at each, and the audio track goes on. -/
theorem mediaErrors_lost (source : MediaSource) (received : Received)
    (surroundings : Surroundings) (handler : RtspHandler) :
    ∃ handled, handleRequestOver source received surroundings handler = some handled ∧
      ∀ run ∈ handled.media, sendH264AacOverTcpResult source = some (0, run) ∧
        handled.output.exit = .returned 0 ∧
        VideoStops source run.video ∧ AudioContinues source run.audio ∧
        (MediaFails source run → ¬Reported source run 0 handled.output.exit) := by
  obtain ⟨media, handled, runs⟩ := handleRequestOver_eq source received surroundings handler
  refine ⟨_, handled, fun run member => ?_⟩
  obtain ⟨joined, exit⟩ := runs run member
  have ran : sendH264AacOverTcp source = some run := by
    rw [sendH264AacOverTcpResult, Option.map_eq_some_iff] at joined
    obtain ⟨other, ran, same⟩ := joined
    rw [ran, (Prod.mk.inj same).2]
  obtain ⟨audioRan, videoRan⟩ := sendH264AacOverTcp_ran ran
  refine ⟨joined, exit, sendH264OverTcp_stops videoRan, sendAacOverTcp_continues audioRan,
    fun _ reported => ?_⟩
  exact absurd reported.media (by decide)

/-- No call of the audio track succeeds, and there is no video file. -/
def silentSource : MediaSource where
  aacFile := some (encodeAudio [shortFrame, shortFrame])
  aacHeap := fun _ => 0
  aacPacketHeap := wholeSender.rtpPacket
  aacResults := fun _ _ => -1
  h264File := none
  h264Heap := fun _ => 0
  h264PacketHeap := wholeSender.rtpPacket
  h264Results := fun _ _ => -1

/-- This handler knows one session. -/
def sessionHandler : RtspHandler :=
  ⟨5, [], [], SessionManager.empty.addSession (ascii "ab") (Session.create .NONE 5 [] .NONE),
    .empty⟩

def playText : Received where
  bytes := ascii "PLAY rtsp://h/a RTSP/1.0\r\nCSeq: 4\r\nSession: ab\r\n\r\n"
  fits := by decide

/-- The audio track sends a second packet, and both callers return 0. -/
theorem mediaErrors_unreported :
    ∃ handled run, handleRequestOver silentSource playText Server.emptySurroundings sessionHandler =
        some handled ∧
      handled.media = some run ∧ sendH264AacOverTcpResult silentSource = some (0, run) ∧
      MediaFails silentSource run ∧ FailsAt run.audio.sender.socket 0 ∧
      run.audio.sender.socket.sent.length = 2 ∧ handled.output.exit = .returned 0 ∧
      ¬Reported silentSource run 0 handled.output.exit := by
  have started : (handleRequestOver silentSource playText Server.emptySurroundings
      sessionHandler).map (fun handled => handled.media.isSome) = some true := by
    decide +kernel
  have calls : (sendH264AacOverTcpResult silentSource).map (fun joined =>
      let socket := joined.2.audio.sender.socket
      (socket.sent.length, socket.sent[0]?.map (socket.results 0))) = some (2, some (-1)) := by
    decide +kernel
  obtain ⟨media, handled, runs⟩ := handleRequestOver_eq silentSource playText
    Server.emptySurroundings sessionHandler
  rw [handled, Option.map_some, Option.some_inj, Option.isSome_iff_exists] at started
  obtain ⟨run, rfl⟩ := started
  obtain ⟨joined, exit⟩ := runs run rfl
  rw [joined, Option.map_some, Option.some_inj, Prod.mk.injEq, Option.map_eq_some_iff] at calls
  obtain ⟨two, buffer, first, refused⟩ := calls
  have fails : FailsAt run.audio.sender.socket 0 :=
    ⟨buffer, first, by rw [refused]; decide⟩
  refine ⟨_, run, handled, rfl, joined, Or.inr (Or.inl rfl), fails, two, exit, fun reported => ?_⟩
  exact absurd reported.media (by decide)

end Callers

end FzServer.Streaming
