import FzServer.Foundation.FrameChoice
import FzServer.Proof.Packetisation.UnitStreams
import FzServer.Proof.Reply.ReplyStream
import FzServer.Proof.Streaming.StreamedTracks
import FzServer.Proof.Streaming.TrackStreams

/-
This file splits all bytes of one connection into responses and interleaved packets.
-/

namespace FzServer.Replies

open Foundation Sessions Rtsp Rtp Aac Server Parsing Media Packetisation Streaming

/-- A dollar sign starts an interleaved packet, and everything else starts a response. -/
def connectionCodec : FrameCodec ((UInt8 × List UInt8) ⊕ Message) UInt8 :=
  interleavedCodec.choice messageCodec fun symbol => symbol = 0x24

/-- The threads of one playback hand over their packets in this order. Every call takes its whole
buffer, and the audio file keeps its thread inside its memory. -/
structure Playback where
  source : MediaSource
  run : MediaRun
  merged : List (List UInt8)
  ran : sendH264AacOverTcp source = some run
  merges : run.Merges merged
  videoDelivers : DeliversAll ⟨source.h264Results, []⟩
  audioDelivers : DeliversAll ⟨source.aacResults, []⟩
  sound : SoundAudio source.aacFile

namespace Playback

/-- The client takes the channel and the packet out of each buffer. -/
def packets (playback : Playback) : List (UInt8 × List UInt8) :=
  playback.merged.map fun buffer => (buffer.getD 1 0, buffer.drop 4)

/-- The packets of both tracks come in some order, and each thread sent those of its own. -/
structure Mixes (playback : Playback) (audio video : List (List UInt8)) : Prop where
  order : Interleaving (audio.map (Prod.mk 0x02)) (video.map (Prod.mk 0x00)) playback.packets
  merged : playback.merged = playback.packets.map interleavedCodec.encode
  audioSent : playback.run.audio.sender.socket.sent = audio.map (tcpFrame 0x02)
  videoSent : playback.run.video.sender.socket.sent = video.map (tcpFrame 0x00)

/-- The packets are those of some units and of some frames that fit the length field. -/
theorem mixes (playback : Playback) :
    ∃ units kept,
      Mixes playback (framePackets audioStartHeader kept) (unitPackets videoStartHeader units) ∧
        ∀ packet ∈ framePackets audioStartHeader kept, packet.length < 65536 := by
  obtain ⟨units, frames, ran⟩ := sendH264AacOver_plays (tcpFrame 0x00) (tcpFrame_drop 0x02)
    playback.source
  obtain ⟨run, same, plays⟩ := ran playback.source.aacResults playback.source.h264Results
  obtain rfl := Option.some.inj (same.symm.trans playback.ran)
  have videoSent := plays.video.handed
  rw [handed_all (Takes.of_reliable playback.videoDelivers.reliable 0 _)] at videoSent
  obtain ⟨kept, sublist, came⟩ := plays.audio.arrived
  rw [arrived_all fun place buffer => by
    rw [plays.audio.results]
    exact playback.audioDelivers.reliable place buffer] at came
  have merges := playback.merges
  rw [MediaRun.Merges, videoSent, came] at merges
  have tagged : Interleaving
      (((framePackets audioStartHeader kept).map (Prod.mk 0x02)).map interleavedCodec.encode)
      (((unitPackets videoStartHeader units).map (Prod.mk 0x00)).map interleavedCodec.encode)
      playback.merged := by
    simpa only [List.map_map, Function.comp_def, interleavedCodec] using merges
  obtain ⟨source, order, merged⟩ := tagged.of_map
  have packets : playback.packets = source := by
    rw [Playback.packets, merged, List.map_map]
    exact List.map_id'' (fun packet => rfl) source
  refine ⟨units, kept, ⟨packets ▸ order, packets ▸ merged, came, videoSent⟩, ?_⟩
  refine framePackets_small (fun payload member => ?_) audioStartHeader
  obtain ⟨frame, inside, rfl⟩ := List.mem_map.mp (sublist.subset member)
  have called : frameBytes frame ∈ playback.run.audio.calls := by
    rw [plays.audio.calls]
    exact List.mem_map_of_mem inside
  have bound := playback.sound.calls (sendH264AacOver_audio playback.ran) _ called
  rw [frameBytes, window_length] at bound
  rw [framePayload, List.length_take]
  exact (Nat.min_le_right _ _).trans (aacPayload_small frame.1 frame.2 bound _
    (List.mem_singleton_self _))

theorem inBounds (playback : Playback) :
    MediaInBounds rtpSendAACFrameTcp playback.source playback.run :=
  sendH264AacOver_inBounds playback.sound playback.ran

/-- Every playback is a stream of valid interleaved packets. -/
theorem encodes (playback : Playback) :
    playback.merged.flatten = interleavedCodec.encodeAll playback.packets ∧
      ∀ packet ∈ playback.packets, interleavedCodec.Valid packet := by
  obtain ⟨units, kept, mixes, audioSmall⟩ := playback.mixes
  refine ⟨?_, fun packet member => ?_⟩
  · rw [mixes.merged, FrameCodec.encodeAll, List.flatMap]
  · rcases (mixes.order.mem_iff packet).mp member with audio | video
    · obtain ⟨bytes, held, rfl⟩ := List.mem_map.mp audio
      exact audioSmall bytes held
    · obtain ⟨bytes, held, rfl⟩ := List.mem_map.mp video
      exact unitPackets_small _ _ bytes held

end Playback

/-- The client expects the numbers of its requests and the packets of its playbacks. -/
inductive Item
  | response (number : Option Int)
  | packet (channel : UInt8) (bytes : List UInt8)

def itemOf : (UInt8 × List UInt8) ⊕ Message → Item
  | .inl packet => .packet packet.1 packet.2
  | .inr message => .response (responseNumber message)

/-- The history counts the playbacks of all clients, since the server runs one after another. -/
structure Traffic where
  playbacks : Nat
  expected : Nat → List Item
  sent : Nat → List UInt8

def Traffic.start : Traffic := ⟨0, fun _ => [], fun _ => []⟩

/-- The connection carries these bytes, which the client should read as these items. -/
def Traffic.add (history : Traffic) (clientFd : Nat) (items : List Item) (bytes : List UInt8) :
    Traffic :=
  { history with
    expected := Function.update history.expected clientFd (history.expected clientFd ++ items)
    sent := Function.update history.sent clientFd (history.sent clientFd ++ bytes) }

def Traffic.connect (history : Traffic) (clientFd : Nat) : Traffic :=
  { history with
    expected := Function.update history.expected clientFd []
    sent := Function.update history.sent clientFd [] }

/-- The reply leaves first, and the media threads end before the next event. -/
def traffic (media : Nat → Playback) (history : Traffic) (now : ServerStage) : Traffic :=
  match requestOf now.before now.event with
  | some request =>
      let replied := history.add request.clientFd [.response (requestNumber (eventLines now.event))]
        (now.output.reply.elim [] Reply.text)
      if now.output.media then
        let playback := media history.playbacks
        { replied.add request.clientFd
            (playback.packets.map fun packet => .packet packet.1 packet.2)
            playback.merged.flatten with playbacks := history.playbacks + 1 }
      else replied
  | none =>
      match now.event with
      | .accept clientFd => if now.before.isOpen clientFd then history else history.connect clientFd
      | _ => history

/-- The client reads exactly the expected items out of the bytes of each connection. -/
def Readable (media : Nat → Playback) (history : Traffic) (now : ServerStage) : Prop :=
  ∀ clientFd, ∃ frames,
    connectionCodec.decodeAll ((traffic media history now).sent clientFd) = some frames ∧
      frames.map itemOf = (traffic media history now).expected clientFd

/-- A playback that this stage starts stays inside the memory of its threads. -/
def PlaysInBounds (media : Nat → Playback) (history : Traffic) (now : ServerStage) : Prop :=
  now.output.media = true → MediaInBounds rtpSendAACFrameTcp (media history.playbacks).source
    (media history.playbacks).run

/-- The bytes of each connection are an encoding of the expected items. -/
def Encoded (history : Traffic) : Prop :=
  ∀ clientFd, ∃ frames, (∀ frame ∈ frames, connectionCodec.Valid frame) ∧
    connectionCodec.encodeAll frames = history.sent clientFd ∧
    frames.map itemOf = history.expected clientFd

namespace Encoded

variable {history : Traffic}

theorem start : Encoded Traffic.start := fun _ => ⟨[], by simp, rfl, rfl⟩

theorem add (encoded : Encoded history) (clientFd : Nat)
    (frames : List ((UInt8 × List UInt8) ⊕ Message))
    (valid : ∀ frame ∈ frames, connectionCodec.Valid frame) :
    Encoded (history.add clientFd (frames.map itemOf) (connectionCodec.encodeAll frames)) := by
  intro other
  by_cases same : other = clientFd
  · obtain ⟨earlier, good, bytes, items⟩ := encoded clientFd
    refine ⟨earlier ++ frames, ?_, ?_, ?_⟩
    · exact fun frame member => (List.mem_append.mp member).elim (good frame) (valid frame)
    · rw [FrameCodec.encodeAll_append, bytes, same, Traffic.add]
      simp only [Function.update_self]
    · rw [List.map_append, items, same, Traffic.add]
      simp only [Function.update_self]
  · simp only [Traffic.add, Function.update_of_ne same]
    exact encoded other

theorem connect (encoded : Encoded history) (clientFd : Nat) :
    Encoded (history.connect clientFd) := by
  intro other
  by_cases same : other = clientFd
  · exact ⟨[], by simp, by simp [same, Traffic.connect, FrameCodec.encodeAll],
      by simp [same, Traffic.connect]⟩
  · simp only [Traffic.connect, Function.update_of_ne same]
    exact encoded other

theorem count (encoded : Encoded history) (playbacks : Nat) :
    Encoded { history with playbacks } := encoded

end Encoded

/-- A response does not start like a packet. -/
theorem response_valid {text : List UInt8} {number : Int} {message : Message}
    (responds : Responds text number message) : connectionCodec.Valid (.inr message) := by
  refine ⟨responds.valid, fun symbol first => ?_⟩
  obtain ⟨rest, status⟩ := responds.protocol
  cases lines : message.lines with
  | nil => exact absurd lines responds.valid.head
  | cons line lines' =>
      rw [statusLine, lines, List.headD_cons] at status
      have front : messageCodec.encode message =
          0x52 :: (ascii "TSP/1.0 " ++ rest ++ 0x0D :: 0x0A ::
            (encodeLines lines' ++ 0x0D :: 0x0A :: message.body)) := by
        change encodeLines message.lines ++ _ = _
        rw [lines, encodeLines, List.flatMap_cons, ← status]
        simp [ascii, encodeLines]
      rw [front] at first
      obtain rfl := Option.some.inj first
      decide

/-- A playback is a part of the stream. -/
theorem Playback.frames (playback : Playback) :
    (∀ frame ∈ playback.packets.map Sum.inl, connectionCodec.Valid frame) ∧
      connectionCodec.encodeAll (playback.packets.map Sum.inl) = playback.merged.flatten := by
  obtain ⟨bytes, valid⟩ := playback.encodes
  refine ⟨fun frame member => ?_, ?_⟩
  · obtain ⟨packet, held, rfl⟩ := List.mem_map.mp member
    refine ⟨valid packet held, fun symbol first => ?_⟩
    obtain rfl := Option.some.inj first
    rfl
  · rw [bytes]
    exact FrameCodec.encodeAll_inl interleavedCodec messageCodec _ playback.packets

section Stage

variable {media : Nat → Playback} {history : Traffic} {server : EpollServer} {event : Event}

/-- An answerable stage keeps the bytes an encoding. -/
theorem encoded_stage (encoded : Encoded history) (solid : SolidNames server.view)
    (answers : EachAnswerable history (epollServer.stage server event)) :
    Encoded (traffic media history (epollServer.stage server event)) := by
  cases found : requestOf server event with
  | none =>
      have silent : traffic media history (epollServer.stage server event) = history ∨
          ∃ opened, traffic media history (epollServer.stage server event) =
            history.connect opened := by
        simp only [traffic, Machine.stage_before, Machine.stage_event, found]
        cases event with
        | accept opened =>
            by_cases already : server.isOpen opened = true
            · exact Or.inl (if_pos already)
            · exact Or.inr ⟨opened, if_neg already⟩
        | epollError opened => exact Or.inl rfl
        | readable opened received surroundings => exact Or.inl rfl
      rcases silent with same | ⟨opened, fresh⟩
      · rw [same]
        exact encoded
      · rw [fresh]
        exact encoded.connect opened
  | some request =>
      obtain ⟨reply, number, message, sent, written, responds⟩ :=
        answerable_responds solid found (answers.2 request found)
      have replied := encoded.add request.clientFd [.inr message] (by
        simpa using response_valid responds)
      have bytes : connectionCodec.encodeAll [.inr message] = reply.text := by
        rw [← responds.encodes]
        exact List.append_nil _
      rw [bytes] at replied
      have items : [Sum.inr message].map itemOf = [Item.response (some number)] := by
        rw [← responds.number]
        rfl
      rw [items] at replied
      simp only [traffic, Machine.stage_before, Machine.stage_event, found, sent, written,
        Option.elim_some]
      by_cases plays : (epollServer.stage server event).output.media = true
      · rw [if_pos plays]
        obtain ⟨valid, packets⟩ := (media history.playbacks).frames
        have both := replied.add request.clientFd _ valid
        rw [packets, List.map_map] at both
        exact both.count _
      · rw [if_neg plays]
        exact replied

end Stage

/-- Every client reads its responses and its packets in order, in every run. -/
theorem readable_run (media : Nat → Playback) (events : List Event)
    (answers : epollServer.Always (traffic media) Traffic.start EpollServer.start events
      EachAnswerable) :
    epollServer.Always (traffic media) Traffic.start EpollServer.start events
      (fun history now =>
        InArrays now ∧ PlaysInBounds media history now ∧ Readable media history now) :=
  Machine.always_of_invariant
    (fun history server => Encoded history ∧ SolidNames server.view)
    (fun history _ _ inside allowed => ⟨stage_inArrays allowed.1,
      fun _ => (media history.playbacks).inBounds, fun clientFd => by
      obtain ⟨frames, valid, bytes, items⟩ := encoded_stage inside.1 inside.2 allowed clientFd
      refine ⟨frames, ?_, items⟩
      rw [← bytes]
      exact connectionCodec.decodeAll_encodeAll frames valid⟩)
    (fun _ _ _ inside allowed _ =>
      ⟨encoded_stage inside.1 inside.2 allowed, stage_solidNames inside.2⟩)
    events _ _ ⟨Encoded.start, SolidNames.start⟩ answers

/-- The audio thread is done before the video thread starts. -/
def samplePlayback : Playback where
  source := sampleSource
  run := (sendH264AacOverTcp sampleSource).get (by
    obtain ⟨run, ran, _⟩ := sendH264AacOverTcp_channels sampleSource
    rw [ran]
    rfl)
  merged := _
  ran := (Option.some_get _).symm
  merges := Interleaving.append _ _
  videoDelivers _ _ := rfl
  audioDelivers _ _ := rfl
  sound := soundAudio_plainFrames

/-- One client sets up both tracks, plays them, and asks once more. -/
theorem readable_run_playback :
    epollServer.Always (traffic fun _ => samplePlayback) Traffic.start EpollServer.start
      [.accept 5, sampleRequest 5 ["SETUP rtsp://h/track0 RTSP/1.0", "CSeq: 3"],
        sampleRequest 5 ["SETUP rtsp://h/track1 RTSP/1.0", "CSeq: 4"],
        sampleRequest 5 ["PLAY rtsp://h/ RTSP/1.0", "CSeq: 5", sampleSession],
        sampleRequest 5 ["OPTIONS rtsp://h/ RTSP/1.0", "CSeq: 6"]]
      (fun history now => InArrays now ∧ PlaysInBounds (fun _ => samplePlayback) history now ∧
        Readable (fun _ => samplePlayback) history now) :=
  readable_run _ _ (by decide +kernel)

end FzServer.Replies
