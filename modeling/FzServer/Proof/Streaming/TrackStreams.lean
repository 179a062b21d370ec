import FzServer.Proof.Packetisation.TrackHeaders
import FzServer.Proof.Streaming.Readers
import FzServer.Proof.Streaming.SoundAudio

/-
This file follows the packets of a playback to their receiver, for every pattern of failures.
-/

namespace FzServer.Streaming

open Foundation Rtp H264 Aac Media Packetisation

/-- These buffers of the log were taken by the socket. -/
def arrived (sender : Sender) : List (List UInt8) :=
  (sender.socket.sent.zipIdx.filter fun entry =>
    0 ≤ sender.socket.results entry.2 entry.1).map Prod.fst

theorem delivered_arrived {before after : Sender} (fresh : before.socket.sent = []) :
    delivered before after = arrived after := by
  rw [delivered, fresh, List.length_nil, List.drop_zero, arrived]

/-- A socket that refuses nothing lets the whole log arrive. -/
theorem arrived_all {sender : Sender} (reliable : sender.socket.Reliable) :
    arrived sender = sender.socket.sent := by
  rw [arrived, List.filter_eq_self.mpr fun entry _ => decide_eq_true (reliable entry.2 entry.1),
    List.zipIdx_map_fst]

section Writers

theorem writeUnits_sender (send : Sender → Memory UInt8 → Nat → Int × Sender)
    (writer : VideoWriter) (cuts : List Cut) :
    (writeAll (writeUnit send) writer cuts).2.sender =
      sendUnitsOver send writer.sender (cuts.map Cut.unit) := by
  induction cuts generalizing writer with
  | nil => rfl
  | cons cut cuts ih =>
      rw [List.map_cons, sendUnitsOver]
      by_cases failed : (send writer.sender cut.unit.1 cut.unit.2).1 = -1
      · rw [writeAll_refused (congrArg Prod.fst (writeUnit_refused failed)), if_pos failed]
        exact congrArg (fun result => VideoWriter.sender result.2) (writeUnit_refused failed)
      · rw [writeAll_taken (congrArg Prod.fst (writeUnit_taken failed)), if_neg failed, ih,
          writeUnit_taken failed]

theorem writeFrames_eq (send : Sender → Memory UInt8 → UInt32 → Int × Sender)
    (writer : AudioWriter) (frames : List Frame) :
    writeAll (writeFrame send) writer frames =
      (true,
        ⟨sendFramesOver send writer.sender frames, writer.calls ++ frames.map frameBytes⟩) := by
  induction frames generalizing writer with
  | nil => rw [writeAll, sendFramesOver, List.map_nil, List.append_nil]
  | cons frame frames ih =>
      rw [writeAll_taken rfl, ih, sendFramesOver, List.map_cons]
      simp [writeFrame]

end Writers

/-- Both threads start with these headers, whatever their memory held. -/
def videoStartHeader : RtpHeader :=
  ⟨0, 0, 0, RTP_VESION, RTP_PAYLOAD_TYPE_H264, 0, 0, 0, 0x88923423⟩

def audioStartHeader : RtpHeader :=
  ⟨0, 0, 0, RTP_VESION, RTP_PAYLOAD_TYPE_AAC, 1, 0, 0, 0x32611⟩

section Threads

/-- The units decide the packets of the video track, and the socket decides how many leave. -/
structure PlaysVideo (frame : List UInt8 → List UInt8) (units : List (Memory UInt8 × Nat))
    (results : Nat → List UInt8 → Int) (run : VideoRun) : Prop where
  handed : run.sender.socket.sent =
    handed results 0 ((unitPackets videoStartHeader units).map frame)
  arrived : arrived run.sender = taken results 0 ((unitPackets videoStartHeader units).map frame)

/-- The frames decide the packets of the audio track, and the socket decides which arrive. -/
structure PlaysAudio (prefixSize : Nat) (frame : List UInt8 → List UInt8) (frames : List Frame)
    (results : Nat → List UInt8 → Int) (run : AudioRun) : Prop where
  results : run.sender.socket.results = results
  calls : run.calls = frames.map frameBytes
  handed : run.sender.socket.sent.map (List.drop (prefixSize + RTP_HEADER_SIZE)) =
    frames.map framePayload
  arrived : ∃ kept, kept.Sublist (frames.map framePayload) ∧
    arrived run.sender = (framePackets audioStartHeader kept).map frame

/-- The units of a reader leave on the video track. -/
theorem videoRun_plays (frame : List UInt8 → List UInt8) (content : List UInt8)
    (heap : Memory UInt8) (packetHeap : RtpPacket) (results : Nat → List UInt8 → Int) (last : Int)
    (cuts : List Cut) :
    PlaysVideo frame (cuts.map Cut.unit) results
      (videoRun (pipeEnd last (writeAll (writeUnit (sendManagerWith (transmit frame)))
        ⟨(videoStart content heap packetHeap ⟨results, []⟩).sender, []⟩ cuts))) := by
  generalize startEq : (videoStart content heap packetHeap ⟨results, []⟩).sender = start
  have sent := sendUnitsOver_handed frame start (cuts.map Cut.unit)
  have came := sendUnitsOver_delivered frame start (cuts.map Cut.unit)
  rw [← writeUnits_sender _ ⟨start, []⟩ cuts] at sent came
  rw [delivered_arrived (by rw [← startEq]; rfl)] at came
  subst startEq
  exact ⟨sent, came⟩

/-- The frames of a reader leave on the audio track. -/
theorem audioRun_plays {prefixSize : Nat} {frame : List UInt8 → List UInt8}
    (strip : ∀ packet, (frame packet).drop prefixSize = packet) (content : List UInt8)
    (heap : Memory UInt8) (packetHeap : RtpPacket) (results : Nat → List UInt8 → Int) (last : Nat)
    (frames : List Frame) :
    PlaysAudio prefixSize frame frames results
      (audioRun (pipeEnd last (writeAll (writeFrame (rtpSendAACFrameWith (transmit frame)))
        ⟨(audioStart content heap packetHeap ⟨results, []⟩).sender, []⟩ frames))) := by
  generalize startEq : (audioStart content heap packetHeap ⟨results, []⟩).sender = start
  have payloads := sendFramesOver_payloads frame strip start frames
  obtain ⟨kept, sublist, came⟩ := sendFramesOver_delivered frame start frames
  have grows := sendFramesOver_steps (extends_steps frame)
    (rtpSendAACFrameWith_steps (extends_steps frame)) start frames
  rw [delivered_arrived (by rw [← startEq]; rfl)] at came
  rw [writeFrames_eq]
  subst startEq
  exact ⟨grows.results, rfl, payloads, kept, sublist, came⟩

/-- The file gives the units, whatever the transport and its answers. -/
theorem sendH264Over_plays (file : Option (List UInt8)) (heap : Memory UInt8) :
    ∃ units, ∀ frame packetHeap results, ∃ run,
      sendH264Over (sendManagerWith (transmit frame)) file heap packetHeap ⟨results, []⟩ =
          some run ∧
        PlaysVideo frame units results run := by
  cases file with
  | none => exact ⟨[], fun frame packetHeap results => ⟨_, rfl, rfl, rfl⟩⟩
  | some content =>
      obtain ⟨cuts, last, _, runs⟩ := sendH264Over_reads content heap
      exact ⟨cuts.map Cut.unit, fun frame packetHeap results =>
        ⟨_, runs _ packetHeap _, videoRun_plays frame content heap packetHeap results last cuts⟩⟩

/-- The file gives the frames, whatever the transport and its answers. -/
theorem sendAacOver_plays (file : Option (List UInt8)) (heap : Memory UInt8) :
    ∃ frames : List Frame, ∀ prefixSize frame packetHeap results,
      (∀ packet, (frame packet).drop prefixSize = packet) → ∃ run,
      sendAacOver (rtpSendAACFrameWith (transmit frame)) file heap packetHeap ⟨results, []⟩ =
          some run ∧
        PlaysAudio prefixSize frame frames results run := by
  cases file with
  | none =>
      exact ⟨[], fun prefixSize frame packetHeap results _ =>
        ⟨_, rfl, rfl, rfl, rfl, [], List.Sublist.refl [], rfl⟩⟩
  | some content =>
      obtain ⟨frames, last, _, runs⟩ := sendAacOver_reads content heap
      exact ⟨frames, fun prefixSize frame packetHeap results strip =>
        ⟨_, runs _ packetHeap _, audioRun_plays strip content heap packetHeap results last frames⟩⟩

end Threads

section Playback

/-- The receiver of the video track expects this header in this place. -/
def videoHeader (index pictures : Nat) : WireHeader where
  version := 2
  padding := 0
  extension := 0
  csrcLen := 0
  marker := 0
  payloadType := 96
  seq := index % 65536
  timestamp := 3000 * pictures % 4294967296
  ssrc := 0x88923423

/-- The receiver of the audio track expects this header in this place. -/
def audioHeader (index : Nat) : WireHeader where
  version := 2
  padding := 0
  extension := 0
  csrcLen := 0
  marker := 1
  payloadType := 97
  seq := index % 65536
  timestamp := 1025 * index % 4294967296
  ssrc := 0x32611

/-- A playback over any transport ends and runs both of its threads. -/
def sendH264AacOver (videoFrame audioFrame : List UInt8 → List UInt8) (source : MediaSource) :
    Option MediaRun :=
  (sendAacOver (rtpSendAACFrameWith (transmit audioFrame)) source.aacFile source.aacHeap
      source.aacPacketHeap ⟨source.aacResults, []⟩).bind fun audio =>
    (sendH264Over (sendManagerWith (transmit videoFrame)) source.h264File source.h264Heap
      source.h264PacketHeap ⟨source.h264Results, []⟩).map fun video => ⟨audio, video⟩

variable {prefixSize : Nat} {videoFrame audioFrame : List UInt8 → List UInt8}

theorem sendH264AacOver_audio {source : MediaSource} {run : MediaRun}
    (ran : sendH264AacOver videoFrame audioFrame source = some run) :
    sendAacOver (rtpSendAACFrameWith (transmit audioFrame)) source.aacFile source.aacHeap
      source.aacPacketHeap ⟨source.aacResults, []⟩ = some run.audio := by
  obtain ⟨audio, audioRan, rest⟩ := Option.bind_eq_some_iff.mp ran
  obtain ⟨video, _, rfl⟩ := Option.map_eq_some_iff.mp rest
  exact audioRan

/-- A playback of a sound audio file stays inside the memory of its threads. -/
theorem sendH264AacOver_inBounds {source : MediaSource} {run : MediaRun}
    (sound : SoundAudio source.aacFile)
    (ran : sendH264AacOver videoFrame audioFrame source = some run) :
    MediaInBounds (rtpSendAACFrameWith (transmit audioFrame)) source run :=
  sound.inBounds (sendH264AacOver_audio ran)

theorem videoHeader_stamp (index pictures : Nat) :
    wireHeader (stamp videoStartHeader index (3000 * pictures)) = videoHeader index pictures := by
  simp [wireHeader, stamp, videoStartHeader, videoHeader, RTP_VESION, RTP_PAYLOAD_TYPE_H264]

theorem audioHeader_stamp (index : Nat) :
    wireHeader (stamp audioStartHeader index (1025 * index)) = audioHeader index := by
  simp [wireHeader, stamp, audioStartHeader, audioHeader, RTP_VESION, RTP_PAYLOAD_TYPE_AAC]

/-- The packets of a playback come from these units and frames of its files. -/
structure Plays (prefixSize : Nat) (videoFrame audioFrame : List UInt8 → List UInt8)
    (units : List (Memory UInt8 × Nat)) (frames : List Frame) (source : MediaSource)
    (run : MediaRun) : Prop where
  video : PlaysVideo videoFrame units source.h264Results run.video
  audio : PlaysAudio prefixSize audioFrame frames source.aacResults run.audio

/-- The units and frames depend on the files and on the memory of the threads alone. -/
theorem sendH264AacOver_plays (videoFrame : List UInt8 → List UInt8)
    (strip : ∀ packet, (audioFrame packet).drop prefixSize = packet) (source : MediaSource) :
    ∃ units frames, ∀ aacResults h264Results, ∃ run,
      sendH264AacOver videoFrame audioFrame { source with aacResults, h264Results } = some run ∧
        Plays prefixSize videoFrame audioFrame units frames
          { source with aacResults, h264Results } run := by
  obtain ⟨units, video⟩ := sendH264Over_plays source.h264File source.h264Heap
  obtain ⟨frames, audio⟩ := sendAacOver_plays source.aacFile source.aacHeap
  refine ⟨units, frames, fun aacResults h264Results => ?_⟩
  obtain ⟨videoRun, videoRan, videoPlays⟩ := video videoFrame source.h264PacketHeap h264Results
  obtain ⟨audioRun, audioRan, audioPlays⟩ :=
    audio prefixSize audioFrame source.aacPacketHeap aacResults strip
  refine ⟨⟨audioRun, videoRun⟩, ?_, videoPlays, audioPlays⟩
  rw [sendH264AacOver]
  simp only [audioRan, videoRan, Option.bind_some, Option.map_some]

theorem sendH264AacOverUdp_eq : sendH264AacOverUdp = sendH264AacOver udpFrame udpFrame := rfl

/-- These files hold three units and two frames, and every call takes its whole buffer. -/
def sampleSource : MediaSource where
  aacFile := some (encodeAudio plainFrames)
  aacHeap := fun _ => 0
  aacPacketHeap := wholeSender.rtpPacket
  aacResults := fun _ buffer => buffer.length
  h264File := some [0, 0, 1, 0x67, 1, 0, 0, 1, 0x65, 2, 0, 0, 0, 1, 0x65, 3]
  h264Heap := fun _ => 0
  h264PacketHeap := wholeSender.rtpPacket
  h264Results := fun _ buffer => buffer.length

end Playback

end FzServer.Streaming
