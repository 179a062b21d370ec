import FzServer.Proof.Packetisation.UnitStreams
import FzServer.Proof.Streaming.AudioFile
import FzServer.Proof.Streaming.FileTiling
import FzServer.Proof.Streaming.TrackStreams
import FzServer.Proof.Streaming.VideoFile

/-
This file follows well-formed media files from the disk to the decoders of the receiver.
-/

namespace FzServer.Streaming

open Foundation Rtp H264 Aac Media Packetisation

instance staleCodeDecidable :
    ∀ buffer units, Decidable (StaleCodeBehindLast buffer units)
  | _, [] => inferInstanceAs (Decidable False)
  | buffer, [last] =>
      inferInstanceAs (Decidable (last.longCode = true ∧ codeAt buffer last.encode.length = true))
  | _, _ :: next :: units => staleCodeDecidable _ (next :: units)

/-- The last unit is missed unless old bytes behind it look like one more start code. -/
def streamed (heap : Memory UInt8) (units : List NalUnit) : List NalUnit :=
  if StaleCodeBehindLast heap units then units else units.dropLast

theorem streamed_mem {heap : Memory UInt8} {units : List NalUnit} {unit : NalUnit}
    (member : unit ∈ streamed heap units) : unit ∈ units := by
  rw [streamed] at member
  split_ifs at member
  · exact member
  · exact List.dropLast_subset units member

/-- The receiver rebuilds these units and these frames from the packets of the two tracks. -/
structure Rebuilds (units : List NalUnit) (frames : List AdtsFrame)
    (video audio : List (List UInt8)) : Prop where
  units : depacketise (video.map (List.drop RTP_HEADER_SIZE)) =
    some (units.map fun unit => received unit.bytes)
  frames : audio.map (fun packet => accessUnits (packet.drop RTP_HEADER_SIZE)) =
    frames.map fun frame => some [(0, frame.raw)]

section Video

/-- A reliable socket takes every unit. -/
theorem writeUnits_reliable (frame : List UInt8 → List UInt8) (writer : VideoWriter)
    (reliable : writer.sender.socket.Reliable) (cuts : List Cut) :
    (writeAll (writeUnit (sendManagerWith (transmit frame))) writer cuts).1 = true := by
  induction cuts generalizing writer with
  | nil => rfl
  | cons cut cuts ih =>
      obtain ⟨positive, middle, sends, result⟩ :=
        sendManagerWith_sends frame reliable cut.unit.1 cut.unit.2
      have taken :
          (sendManagerWith (transmit frame) writer.sender cut.unit.1 cut.unit.2).1 ≠ -1 := by
        omega
      have now := writeUnit_taken taken
      rw [writeAll_taken (congrArg Prod.fst now), now]
      apply ih
      dsimp only
      rw [result]
      exact sends.reliable reliable

theorem sendH264OverTcp_calls (units : List NalUnit) (fits : FitsBuffer units)
    (heap : Memory UInt8) (packetHeap : RtpPacket) (socket : Socket) (reliable : socket.Reliable) :
    ∃ run, sendH264OverTcp (some (encodeFile units)) heap packetHeap socket = some run ∧
      run.calls = (streamed heap units).map NalUnit.bytes := by
  cases units with
  | nil => exact ⟨_, rfl, rfl⟩
  | cons unit units =>
      obtain ⟨run, runs, whole, cut⟩ := videoLoop_run (tcpFrame 0x00) (unit :: units)
        (List.cons_ne_nil _ _) fits ((encodeFile (unit :: units)).length + 1)
        (Nat.succ_le_succ (units_length _)) (encodeFile (unit :: units)) 0 rfl heap
        (videoStart (encodeFile (unit :: units)) heap packetHeap socket).sender reliable []
      refine ⟨run, runs, ?_⟩
      rw [streamed]
      split_ifs with stale
      · exact (whole stale).2
      · exact (cut stale).2

/-- The file gives its units, each with a zero byte behind it in the buffer. -/
theorem encodeFile_units (units : List NalUnit) (fits : FitsBuffer units) (heap : Memory UInt8) :
    ∃ cuts : List Cut, cuts.map Cut.bytes = (streamed heap units).map NalUnit.bytes ∧
      (∀ cut ∈ cuts, cut.unit.1 cut.unit.2 = 0) ∧
      ∀ frame packetHeap results, ∃ run,
        sendH264Over (sendManagerWith (transmit frame)) (some (encodeFile units)) heap packetHeap
            ⟨results, []⟩ = some run ∧
          PlaysVideo frame (cuts.map Cut.unit) results run := by
  obtain ⟨cuts, last, reads, runs⟩ := sendH264Over_reads (encodeFile units) heap
  refine ⟨cuts, ?_, ?_, fun frame packetHeap results =>
    ⟨_, runs _ packetHeap _, videoRun_plays frame _ heap packetHeap results last cuts⟩⟩
  · -- A playback that no failure disturbs hands over every unit of the reader.
    have reliable : wholeSender.socket.Reliable := wholeSender_delivers.reliable
    obtain ⟨run, ran, calls⟩ := sendH264OverTcp_calls units fits heap wholeSender.rtpPacket
      wholeSender.socket reliable
    obtain rfl := Option.some.inj ((runs sendManagerTcp _ _).symm.trans ran)
    let writer : VideoWriter := ⟨(videoStart (encodeFile units) heap wholeSender.rtpPacket
      wholeSender.socket).sender, []⟩
    obtain ⟨given, left, split, handedOver, all⟩ := writeUnits_calls sendManagerTcp writer cuts
    rw [all (writeUnits_reliable (tcpFrame 0x00) writer reliable cuts), List.append_nil] at split
    rw [← calls]
    conv_lhs => rw [split]
    exact (handedOver.trans (List.nil_append _)).symm
  · refine reads.forall (fun cut => cut.unit.1 cut.unit.2 = 0) fun reader cut next now => ?_
    obtain ⟨before, _, follows, _⟩ := readUnit_code now
    change cut.rec_ (cut.step + (cut.found - cut.step)) = 0
    rw [Nat.add_sub_cancel' before]
    exact ((codeAt_iff _ _).mp follows).1

/-- The receiver of the video track rebuilds the units that were streamed. -/
theorem encodeFile_rebuilt (units : List NalUnit) (fits : FitsBuffer units)
    (carried : ∀ unit ∈ units, Carried unit.bytes) (heap : Memory UInt8) :
    ∃ packets : List (List UInt8), (∀ packet ∈ packets, packet.length < 65536) ∧
      depacketise (packets.map (List.drop RTP_HEADER_SIZE)) =
        some ((streamed heap units).map fun unit => received unit.bytes) ∧
      ∀ frame packetHeap socket, socket.Reliable → socket.sent = [] → ∃ run,
        sendH264Over (sendManagerWith (transmit frame)) (some (encodeFile units)) heap packetHeap
            socket = some run ∧
          run.sender.socket.sent = packets.map frame := by
  obtain ⟨cuts, bytes, behind, runs⟩ := encodeFile_units units fits heap
  refine ⟨unitPackets videoStartHeader (cuts.map Cut.unit), unitPackets_small _ _, ?_, ?_⟩
  · have carriedCut : ∀ cut ∈ cuts, Carried cut.bytes := by
      intro cut member
      have inside : cut.bytes ∈ (streamed heap units).map NalUnit.bytes := by
        rw [← bytes]
        exact List.mem_map_of_mem member
      obtain ⟨unit, held, same⟩ := List.mem_map.mp inside
      rw [← same]
      exact carried unit (streamed_mem held)
    rw [unitPackets_payloads, depacketise_units _ (List.forall_mem_map.mpr carriedCut)
      (List.forall_mem_map.mpr behind), List.map_map]
    change some (cuts.map (received ∘ Cut.bytes)) =
      some ((streamed heap units).map (received ∘ NalUnit.bytes))
    rw [← List.map_map, bytes, List.map_map]
  · rintro frame packetHeap ⟨results, sent⟩ reliable rfl
    obtain ⟨run, ran, plays⟩ := runs frame packetHeap results
    refine ⟨run, ran, ?_⟩
    rw [plays.handed]
    exact handed_all (Takes.of_reliable reliable 0 _)

end Video

section Audio

/-- The receiver of the audio track rebuilds the raw frames over any transport. -/
theorem encodeAudio_rebuilt (frames : List AdtsFrame) (heap : Memory UInt8) {prefixSize : Nat}
    {frame : List UInt8 → List UInt8} (strip : ∀ packet, (frame packet).drop prefixSize = packet)
    (packetHeap : RtpPacket) (results : Nat → List UInt8 → Int) :
    ∃ run, sendAacOver (rtpSendAACFrameWith (transmit frame)) (some (encodeAudio frames)) heap
        packetHeap ⟨results, []⟩ = some run ∧
      (run.sender.socket.sent.map fun buffer =>
          accessUnits (buffer.drop (prefixSize + RTP_HEADER_SIZE))) =
        frames.map fun frame => some [(0, frame.raw)] := by
  obtain ⟨reads, plays⟩ := sendAacOver_plays (some (encodeAudio frames)) heap
  obtain ⟨run, ran, played⟩ := plays prefixSize frame packetHeap results strip
  obtain ⟨calm, packets, calmRan, _, logs, units⟩ := sendAacOverTcp_logs frames heap
    wholeSender.rtpPacket wholeSender.socket wholeSender_delivers.reliable
  obtain ⟨other, otherRan, otherPlayed⟩ := plays 4 (tcpFrame 0x02) wholeSender.rtpPacket
    wholeSender.socket.results (tcpFrame_drop 0x02)
  obtain rfl := Option.some.inj (otherRan.symm.trans calmRan)
  refine ⟨run, ran, ?_⟩
  -- Both playbacks read the same frames out of the file.
  have payloads := otherPlayed.handed
  rw [logs.sent] at payloads
  have same : packets.map (List.drop RTP_HEADER_SIZE) = reads.map framePayload := by
    rw [← payloads]
    change _ = ((packets.map (tcpFrame 0x02)).map _)
    rw [List.map_map]
    exact List.map_congr_left fun packet _ => by
      rw [Function.comp_apply, ← List.drop_drop, tcpFrame_drop]
  rw [← units]
  change (run.sender.socket.sent.map (accessUnits ∘ List.drop (prefixSize + RTP_HEADER_SIZE))) =
    packets.map (accessUnits ∘ List.drop RTP_HEADER_SIZE)
  rw [← List.map_map, ← List.map_map, played.handed, same]

end Audio

section Playback

variable (units : List NalUnit) (frames : List AdtsFrame)

/-- The files of a playback hold these units and frames, no frame has a checksum, and every call
takes its whole buffer. -/
structure Serves (source : MediaSource) : Prop where
  video : source.h264File = some (encodeFile units)
  fits : FitsBuffer units
  carried : ∀ unit ∈ units, Carried unit.bytes
  audio : source.aacFile = some (encodeAudio frames)
  plain : ∀ frame ∈ frames, frame.crc = none
  videoDelivers : DeliversAll ⟨source.h264Results, []⟩
  audioDelivers : DeliversAll ⟨source.aacResults, []⟩

variable {units frames} in
theorem Serves.sound {source : MediaSource} (serves : Serves units frames source) :
    SoundAudio source.aacFile := by
  rw [serves.audio]
  rintro content ⟨⟩
  exact soundFrames_encodeAudio frames serves.plain

/-- In every order of the two threads the receiver rebuilds the units and all frames. -/
theorem playback_rebuilds (source : MediaSource) (serves : Serves units frames source) :
    (∃ run, sendH264AacOverTcp source = some run ∧
        MediaInBounds rtpSendAACFrameTcp source run ∧ ∀ merged, run.Merges merged →
        ∃ parsed, interleavedCodec.decodeAll merged.flatten = some parsed ∧
          Rebuilds (streamed source.h264Heap units) frames (channelPackets 0 parsed)
            (channelPackets 2 parsed)) ∧
      ∃ run, sendH264AacOverUdp source = some run ∧
        MediaInBounds rtpSendAACFrame source run ∧
        Rebuilds (streamed source.h264Heap units) frames run.video.sender.socket.sent
          run.audio.sender.socket.sent := by
  obtain ⟨packets, small, rebuilt, plays⟩ :=
    encodeFile_rebuilt units serves.fits serves.carried source.h264Heap
  have reliable := serves.videoDelivers.reliable
  constructor
  · obtain ⟨video, videoRan, videoSent⟩ :=
      plays (tcpFrame 0x00) source.h264PacketHeap ⟨source.h264Results, []⟩ reliable rfl
    obtain ⟨audio, audioPackets, audioRan, _, logs, raws⟩ := sendAacOverTcp_logs frames
      source.aacHeap source.aacPacketHeap ⟨source.aacResults, []⟩ serves.audioDelivers.reliable
    have ran : sendH264AacOverTcp source = some ⟨audio, video⟩ := by
      rw [sendH264AacOverTcp, serves.audio, serves.video, audioRan, Option.bind_some]
      exact congrArg (Option.map fun video => MediaRun.mk audio video) videoRan
    refine ⟨⟨audio, video⟩, ran, sendH264AacOver_inBounds serves.sound ran,
      fun merged merges => ?_⟩
    have sent : audio.sender.socket.sent = audioPackets.map (tcpFrame 0x02) := logs.sent
    rw [MediaRun.Merges, sent, videoSent] at merges
    obtain ⟨parsed, decoded, _, onAudio, onVideo⟩ := channelPackets_interleaving 0x02 0x00
      (by decide) audioPackets packets logs.small small merged merges
    refine ⟨parsed, decoded, ?_, ?_⟩
    · rw [onVideo, rebuilt]
    · rw [onAudio, raws]
  · obtain ⟨video, videoRan, videoSent⟩ :=
      plays udpFrame source.h264PacketHeap ⟨source.h264Results, []⟩ reliable rfl
    obtain ⟨audio, audioRan, raws⟩ := @encodeAudio_rebuilt frames source.aacHeap 0 udpFrame
      (fun _ => rfl) source.aacPacketHeap source.aacResults
    have ran : sendH264AacOverUdp source = some ⟨audio, video⟩ := by
      rw [sendH264AacOverUdp_eq, sendH264AacOver, serves.audio, serves.video, audioRan,
        Option.bind_some, videoRan, Option.map_some]
    refine ⟨⟨audio, video⟩, ran, sendH264AacOver_inBounds serves.sound ran, ?_, ?_⟩
    · change depacketise (video.sender.socket.sent.map _) = _
      rw [videoSent, ← rebuilt, List.map_map]
      rfl
    · rw [Nat.zero_add] at raws
      exact raws

/-- Two slices and two frames reach the receiver, and the last slice does not. -/
theorem playback_rebuilds_slices :
    let source : MediaSource :=
      { aacFile := some (encodeAudio plainFrames), aacHeap := fun _ => 0,
        aacPacketHeap := wholeSender.rtpPacket, aacResults := fun _ buffer => buffer.length,
        h264File := some (encodeFile [oneSlice, oneSlice, oneSlice]), h264Heap := fun _ => 0,
        h264PacketHeap := wholeSender.rtpPacket, h264Results := fun _ buffer => buffer.length }
    (∃ run, sendH264AacOverTcp source = some run ∧
        MediaInBounds rtpSendAACFrameTcp source run ∧ ∀ merged, run.Merges merged →
        ∃ parsed, interleavedCodec.decodeAll merged.flatten = some parsed ∧
          Rebuilds [oneSlice, oneSlice] plainFrames (channelPackets 0 parsed)
            (channelPackets 2 parsed)) ∧
      ∃ run, sendH264AacOverUdp source = some run ∧
        MediaInBounds rtpSendAACFrame source run ∧
        Rebuilds [oneSlice, oneSlice] plainFrames run.video.sender.socket.sent
          run.audio.sender.socket.sent :=
  playback_rebuilds [oneSlice, oneSlice, oneSlice] plainFrames _
    { video := rfl
      fits := by simp [FitsBuffer, H264_FILE_BUFFER, oneSlice, NalUnit.encode, NalUnit.code]
      carried := by
        simp only [List.forall_mem_cons]
        exact ⟨⟨0x65, [], rfl, by decide⟩, ⟨0x65, [], rfl, by decide⟩, ⟨0x65, [], rfl, by decide⟩,
          by simp⟩
      audio := rfl
      plain := by simp [plainFrames, longerFrame, shortFrame]
      videoDelivers := fun _ _ => rfl
      audioDelivers := fun _ _ => rfl }

end Playback

end FzServer.Streaming
