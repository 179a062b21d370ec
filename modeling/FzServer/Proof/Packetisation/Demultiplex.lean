import FzServer.Foundation.FrameCodec
import FzServer.Proof.Packetisation.SendTrace

/-
This file parses the interleaved stream of the video thread and the audio thread.
-/

namespace FzServer.Packetisation

open Foundation Rtp H264 Aac

/-- The receiver reads the dollar sign, the channel, the length, and that many bytes. -/
def decodeInterleaved : List UInt8 → Option ((UInt8 × List UInt8) × List UInt8)
  | 0x24 :: channel :: high :: low :: rest =>
      let size := 256 * high.toNat + low.toNat
      if rest.length < size then none else some ((channel, rest.take size), rest.drop size)
  | _ => none

theorem highByte_toNat (size : Nat) (small : size < 65536) :
    ((UInt32.ofNat size &&& 0xFF00) >>> 8).toUInt8.toNat = size / 256 := by
  have word : size % 2 ^ 32 = size := Nat.mod_eq_of_lt (by omega)
  simp only [UInt32.toNat_toUInt8, UInt32.toNat_shiftRight, UInt32.toNat_and, UInt32.toNat_ofNat',
    word]
  change (size &&& 0xFF00) >>> 8 % 2 ^ 8 = size / 256
  rw [Nat.shiftRight_and_distrib, Nat.shiftRight_eq_div_pow]
  change (size / 2 ^ 8 &&& 2 ^ 8 - 1) % 2 ^ 8 = size / 256
  rw [Nat.and_two_pow_sub_one_eq_mod]
  omega

theorem lowByte_toNat (size : Nat) (small : size < 65536) :
    (UInt32.ofNat size &&& 0xFF).toUInt8.toNat = size % 256 := by
  have word : size % 2 ^ 32 = size := Nat.mod_eq_of_lt (by omega)
  simp only [UInt32.toNat_toUInt8, UInt32.toNat_and, UInt32.toNat_ofNat', word]
  change (size &&& 2 ^ 8 - 1) % 2 ^ 8 = size % 256
  rw [Nat.and_two_pow_sub_one_eq_mod]
  omega

/-- The framing delimits every packet below 65536 bytes. -/
def interleavedCodec : FrameCodec (UInt8 × List UInt8) UInt8 where
  encode frame := tcpFrame frame.1 frame.2
  decode := decodeInterleaved
  Valid frame := frame.2.length < 65536
  decode_encode frame rest valid := by
    simp only [tcpFrame, List.cons_append, List.nil_append, decodeInterleaved]
    rw [highByte_toNat frame.2.length valid, lowByte_toNat frame.2.length valid,
      Nat.div_add_mod, if_neg (by simp), List.take_left, List.drop_left]
  encode_ne_nil frame := List.cons_ne_nil _ _

/-- The video thread sends its NAL units and stops at the first error. -/
def sendUnits : Sender → List (Memory UInt8 × Nat) → Sender := sendUnitsOver sendManagerTcp

/-- The audio thread sends its frames and ignores each result. -/
def sendFrames : Sender → List (Memory UInt8 × UInt32) → Sender :=
  sendFramesOver rtpSendAACFrameTcp

/-- These are the buffers that left between two states of one thread. -/
def buffersSent (before after : Sender) : List (List UInt8) :=
  after.socket.sent.drop before.socket.sent.length

/-- The second state follows the first after these packets left in small frames. -/
structure Logs (frame : List UInt8 → List UInt8) (before after : Sender)
    (packets : List (List UInt8)) : Prop where
  results : after.socket.results = before.socket.results
  sent : after.socket.sent = before.socket.sent ++ packets.map frame
  small : ∀ packet ∈ packets, packet.length < 65536

theorem Logs.trans {frame : List UInt8 → List UInt8} {before middle after : Sender}
    {first second : List (List UInt8)} (one : Logs frame before middle first)
    (two : Logs frame middle after second) : Logs frame before after (first ++ second) where
  results := two.results.trans one.results
  sent := by rw [two.sent, one.sent, List.map_append, List.append_assoc]
  small packet member := (List.mem_append.mp member).elim (one.small packet) (two.small packet)

theorem Logs.buffersSent {frame : List UInt8 → List UInt8} {before after : Sender}
    {packets : List (List UInt8)} (logs : Logs frame before after packets) :
    buffersSent before after = packets.map frame := by
  rw [Packetisation.buffersSent, logs.sent, List.drop_left]

theorem wirePackets_small (payloads : List (List UInt8)) (header : RtpHeader)
    (small : ∀ payload ∈ payloads, payload.length ≤ 8188) :
    ∀ packet ∈ wirePackets header payloads, packet.length < 65536 := by
  induction payloads generalizing header with
  | nil => simp [wirePackets]
  | cons payload payloads ih =>
      intro packet member
      rcases List.mem_cons.mp member with rfl | member
      · have bound := small payload (by simp)
        rw [wirePacket_length, RTP_HEADER_SIZE]
        omega
      · exact ih header.next (fun other inside => small other (List.mem_cons_of_mem _ inside))
          packet member

theorem Sends.logs {frame : List UInt8 → List UInt8} {payloads : List (List UInt8)}
    {before after : Sender} (sends : Sends frame payloads before after)
    (small : ∀ payload ∈ payloads, payload.length ≤ 8188) :
    Logs frame before after (wirePackets before.rtpPacket.rtpHeader payloads) :=
  ⟨sends.results, sends.sent, wirePackets_small payloads _ small⟩

/-- A payload of a NAL unit has at most two bytes more than the packet size. -/
theorem nalPayloads_small (rec : Memory UInt8) (filesize : Nat) :
    ∀ payload ∈ nalPayloads rec filesize, payload.length ≤ 8188 := by
  have below := Nat.mod_lt filesize (show 0 < RTP_MAX_PKT_SIZE by decide)
  have packet : RTP_MAX_PKT_SIZE = 1400 := rfl
  intro payload member
  rw [nalPayloads] at member
  split at member
  · rw [List.mem_singleton.mp member, window_length]
    omega
  · rcases List.mem_append.mp member with full | last
    · obtain ⟨index, _, rfl⟩ := List.mem_map.mp full
      simp only [fuPayload, List.length_append, List.length_cons, List.length_nil, window_length]
      omega
    · rw [remainPayloads] at last
      split at last
      · rw [List.mem_singleton.mp last]
        simp only [fuPayload, List.length_append, List.length_cons, List.length_nil, window_length]
        omega
      · simp at last

/-- A frame of the AU size field leaves in a small payload. -/
theorem aacPayload_small (raw : Memory UInt8) (frameSize : UInt32)
    (size : frameSize.toNat ≤ 8184) :
    ∀ payload ∈ [aacPayload raw frameSize], payload.length ≤ 8188 := by
  intro payload member
  rw [List.mem_singleton.mp member, aacPayload, List.length_append, window_length]
  change 4 + frameSize.toNat ≤ 8188
  omega

/-- The video thread logs small packets on channel 0. -/
theorem sendUnits_logs (sender : Sender) (reliable : sender.socket.Reliable)
    (units : List (Memory UInt8 × Nat)) :
    ∃ packets, Logs (tcpFrame 0x00) sender (sendUnits sender units) packets := by
  induction units generalizing sender with
  | nil => exact ⟨[], rfl, (List.append_nil _).symm, by simp⟩
  | cons unit units ih =>
      obtain ⟨positive, middle, sends, result⟩ :=
        sendManagerWith_sends (tcpFrame 0x00) reliable unit.1 unit.2
      have one : Logs (tcpFrame 0x00) sender (sendManagerTcp sender unit.1 unit.2).2
          (wirePackets sender.rtpPacket.rtpHeader (nalPayloads unit.1 unit.2)) := by
        have logged := sends.logs (nalPayloads_small unit.1 unit.2)
        rw [show (sendManagerTcp sender unit.1 unit.2).2 = _ from result]
        exact ⟨logged.results, logged.sent, logged.small⟩
      have continues : (sendManagerTcp sender unit.1 unit.2).1 ≠ -1 := by
        have : 0 ≤ (sendManagerTcp sender unit.1 unit.2).1 := positive
        omega
      obtain ⟨packets, rest⟩ := ih (sendManagerTcp sender unit.1 unit.2).2 (by
        intro index buffer
        rw [one.results]
        exact reliable index buffer)
      rw [sendUnits, sendUnitsOver, if_neg continues]
      exact ⟨_, one.trans rest⟩

/-- The audio thread logs small packets on channel 2. -/
theorem sendFrames_logs (sender : Sender) (reliable : sender.socket.Reliable)
    (frames : List (Memory UInt8 × UInt32))
    (sizes : ∀ frame ∈ frames, 1 ≤ frame.2.toNat ∧ frame.2.toNat ≤ 8184) :
    ∃ packets, Logs (tcpFrame 0x02) sender (sendFrames sender frames) packets := by
  induction frames generalizing sender with
  | nil => exact ⟨[], rfl, (List.append_nil _).symm, by simp⟩
  | cons frame frames ih =>
      have bound := (sizes frame (by simp)).2
      obtain ⟨middle, sends, result⟩ := rtpSendAACFrameWith_sends (tcpFrame 0x02)
        reliable frame.1 frame.2 (by omega)
      have one : Logs (tcpFrame 0x02) sender (rtpSendAACFrameTcp sender frame.1 frame.2).2
          (wirePackets sender.rtpPacket.rtpHeader [aacPayload frame.1 frame.2]) := by
        have logged := sends.logs (aacPayload_small frame.1 frame.2 bound)
        rw [show (rtpSendAACFrameTcp sender frame.1 frame.2).2 = _ from congrArg Prod.snd result]
        exact ⟨logged.results, logged.sent, logged.small⟩
      obtain ⟨packets, rest⟩ := ih (rtpSendAACFrameTcp sender frame.1 frame.2).2 (by
          intro index buffer
          rw [one.results]
          exact reliable index buffer)
        (fun other member => sizes other (List.mem_cons_of_mem _ member))
      exact ⟨_, one.trans rest⟩

/-- The receiver keeps the packets of one channel. -/
def channelPackets (channel : UInt8) (frames : List (UInt8 × List UInt8)) : List (List UInt8) :=
  (frames.filter fun frame => frame.1 = channel).map Prod.snd

/-- Any merge of frames on two channels parses back into the two packet sequences. -/
theorem channelPackets_interleaving (first second : UInt8) (different : first ≠ second)
    (firstPackets secondPackets : List (List UInt8))
    (smallFirst : ∀ packet ∈ firstPackets, packet.length < 65536)
    (smallSecond : ∀ packet ∈ secondPackets, packet.length < 65536) (merged : List (List UInt8))
    (mixed : Interleaving (firstPackets.map (tcpFrame first)) (secondPackets.map (tcpFrame second))
      merged) :
    ∃ frames, interleavedCodec.decodeAll merged.flatten = some frames ∧
      frames.length = firstPackets.length + secondPackets.length ∧
      channelPackets first frames = firstPackets ∧
      channelPackets second frames = secondPackets := by
  have tagged : Interleaving ((firstPackets.map (Prod.mk first)).map interleavedCodec.encode)
      ((secondPackets.map (Prod.mk second)).map interleavedCodec.encode) merged := by
    simpa only [List.map_map, Function.comp_def, interleavedCodec] using mixed
  obtain ⟨frames, order, rfl⟩ := tagged.of_map
  have firstTag : ∀ frame ∈ firstPackets.map (Prod.mk first), frame.1 = first := by
    intro frame member
    obtain ⟨packet, _, rfl⟩ := List.mem_map.mp member
    rfl
  have secondTag : ∀ frame ∈ secondPackets.map (Prod.mk second), frame.1 = second := by
    intro frame member
    obtain ⟨packet, _, rfl⟩ := List.mem_map.mp member
    rfl
  have valid : ∀ frame ∈ frames, interleavedCodec.Valid frame := by
    intro frame member
    rcases (order.mem_iff frame).mp member with inside | inside
    · obtain ⟨packet, held, rfl⟩ := List.mem_map.mp inside
      exact smallFirst packet held
    · obtain ⟨packet, held, rfl⟩ := List.mem_map.mp inside
      exact smallSecond packet held
  refine ⟨frames, interleavedCodec.decodeAll_encodeAll frames valid, ?_, ?_, ?_⟩
  · rw [order.length_eq, List.length_map, List.length_map]
  · rw [channelPackets, order.filter_left _ (fun frame member => by simp [firstTag frame member])
      (fun frame member => by simp [secondTag frame member, different.symm])]
    simp [List.map_map, Function.comp_def]
  · rw [channelPackets, order.filter_right _
      (fun frame member => by simp [firstTag frame member, different])
      (fun frame member => by simp [secondTag frame member])]
    simp [List.map_map, Function.comp_def]

/-- Every shuffle of the two threads parses back into the packets of each thread. -/
theorem interleaved_demultiplex (video audio : Sender)
    (videoDelivers : DeliversAll video.socket) (audioDelivers : DeliversAll audio.socket)
    (units : List (Memory UInt8 × Nat)) (frames : List (Memory UInt8 × UInt32))
    (sizes : ∀ frame ∈ frames, 1 ≤ frame.2.toNat ∧ frame.2.toNat ≤ 8184)
    (merged : List (List UInt8))
    (mixed : Interleaving (buffersSent video (sendUnits video units))
      (buffersSent audio (sendFrames audio frames)) merged) :
    ∃ parsed, interleavedCodec.decodeAll merged.flatten = some parsed ∧
      parsed.length = merged.length ∧
      channelPackets 0 parsed = (buffersSent video (sendUnits video units)).map (List.drop 4) ∧
      channelPackets 2 parsed = (buffersSent audio (sendFrames audio frames)).map (List.drop 4) := by
  obtain ⟨videoPackets, videoLogs⟩ := sendUnits_logs video videoDelivers.reliable units
  obtain ⟨audioPackets, audioLogs⟩ := sendFrames_logs audio audioDelivers.reliable frames sizes
  have count := mixed.length_eq
  rw [videoLogs.buffersSent, audioLogs.buffersSent] at mixed count ⊢
  obtain ⟨parsed, decoded, length, videoChannel, audioChannel⟩ :=
    channelPackets_interleaving 0 2 (by decide) videoPackets audioPackets videoLogs.small
      audioLogs.small merged mixed
  refine ⟨parsed, decoded, ?_, ?_, ?_⟩
  · rw [length, count, List.length_map, List.length_map]
  · simp [videoChannel, List.map_map, Function.comp_def, tcpFrame_drop]
  · simp [audioChannel, List.map_map, Function.comp_def, tcpFrame_drop]

/-- One AAC frame leaves before one NAL unit. -/
theorem interleaved_demultiplex_two :
    let video := sendUnits wholeSender [(fun _ => 0x65, 3)]
    let audio := sendFrames wholeSender [(fun _ => 0x24, 2)]
    ∃ parsed, interleavedCodec.decodeAll
        (buffersSent wholeSender audio ++ buffersSent wholeSender video).flatten = some parsed ∧
      parsed.length = (buffersSent wholeSender audio ++ buffersSent wholeSender video).length ∧
      channelPackets 0 parsed = (buffersSent wholeSender video).map (List.drop 4) ∧
      channelPackets 2 parsed = (buffersSent wholeSender audio).map (List.drop 4) :=
  interleaved_demultiplex wholeSender wholeSender wholeSender_delivers wholeSender_delivers
    [(fun _ => 0x65, 3)] [(fun _ => 0x24, 2)] (by simp) _ (.right (.left .nil))

end FzServer.Packetisation
