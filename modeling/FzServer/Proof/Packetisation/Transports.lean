import FzServer.Proof.Packetisation.Demultiplex

/-
This file compares the datagrams with the interleaved frames of the same media.
-/

namespace FzServer.Packetisation

open Foundation Rtp H264 Aac

/-- This prefix names the channel and the exact length of the packet behind it. -/
def Prefixed (channel : UInt8) (buffer : List UInt8) : Prop :=
  ∃ high low : UInt8, buffer.take 4 = [0x24, channel, high, low] ∧
    256 * high.toNat + low.toNat = (buffer.drop 4).length

/-- The two calls hand over the same packets and leave the same header. -/
structure TransportsAgree (channel : UInt8) (tcp tcpAfter udp udpAfter : Sender) : Prop where
  packets : buffersSent udp udpAfter = (buffersSent tcp tcpAfter).map (List.drop 4)
  prefixes : ∀ buffer ∈ buffersSent tcp tcpAfter, Prefixed channel buffer
  header : tcpAfter.rtpPacket.rtpHeader = udpAfter.rtpPacket.rtpHeader

/-- A small packet behind its prefix has the announced length. -/
theorem tcpFrame_prefixed (channel : UInt8) (packet : List UInt8) (small : packet.length < 65536) :
    Prefixed channel (tcpFrame channel packet) := by
  refine ⟨_, _, rfl, ?_⟩
  rw [tcpFrame_drop, highByte_toNat packet.length small, lowByte_toNat packet.length small,
    Nat.div_add_mod]

/-- Senders with one packet state agree when they send the same small payloads. -/
theorem TransportsAgree.of_sends {channel : UInt8} {tcp tcpAfter udp udpAfter : Sender}
    {payloads : List (List UInt8)} (ticks : UInt32)
    (same : tcp.rtpPacket.rtpHeader = udp.rtpPacket.rtpHeader)
    (overTcp : Sends (tcpFrame channel) payloads tcp tcpAfter)
    (overUdp : Sends udpFrame payloads udp udpAfter)
    (small : ∀ payload ∈ payloads, payload.length ≤ 8188) :
    TransportsAgree channel tcp
      (tcpAfter.withHeader (tcpAfter.rtpPacket.rtpHeader.after ticks)) udp
      (udpAfter.withHeader (udpAfter.rtpPacket.rtpHeader.after ticks)) := by
  let packets := wirePackets tcp.rtpPacket.rtpHeader payloads
  have tcpBuffers : buffersSent tcp
      (tcpAfter.withHeader (tcpAfter.rtpPacket.rtpHeader.after ticks)) =
        packets.map (tcpFrame channel) := (overTcp.logs small).buffersSent
  have udpBuffers : buffersSent udp
      (udpAfter.withHeader (udpAfter.rtpPacket.rtpHeader.after ticks)) = packets.map udpFrame := by
    have logged := (overUdp.logs small).buffersSent
    rw [← same] at logged
    exact logged
  refine ⟨?_, ?_, ?_⟩
  · rw [tcpBuffers, udpBuffers, List.map_map]
    exact List.map_congr_left fun packet _ => (tcpFrame_drop channel packet).symm
  · intro buffer member
    rw [tcpBuffers] at member
    obtain ⟨packet, inside, rfl⟩ := List.mem_map.mp member
    exact tcpFrame_prefixed channel packet ((overTcp.logs small).small packet inside)
  · change tcpAfter.rtpPacket.rtpHeader.after ticks = udpAfter.rtpPacket.rtpHeader.after ticks
    rw [overTcp.header, overUdp.header, same]

/-- The UDP sender and the TCP sender agree on every NAL unit and on every AAC frame. -/
theorem transports_agree (tcp udp : Socket) (tcpReliable : tcp.Reliable) (udpReliable : udp.Reliable)
    (rtpPacket : RtpPacket) (rec : Memory UInt8) (filesize : Nat) (frame : Memory UInt8)
    (frameSize : UInt32) (size : 1 ≤ frameSize.toNat ∧ frameSize.toNat ≤ 8184) :
    TransportsAgree 0x00 ⟨tcp, rtpPacket⟩ (sendManagerTcp ⟨tcp, rtpPacket⟩ rec filesize).2
        ⟨udp, rtpPacket⟩ (sendManager ⟨udp, rtpPacket⟩ rec filesize).2 ∧
      TransportsAgree 0x02 ⟨tcp, rtpPacket⟩ (rtpSendAACFrameTcp ⟨tcp, rtpPacket⟩ frame frameSize).2
        ⟨udp, rtpPacket⟩ (rtpSendAACFrame ⟨udp, rtpPacket⟩ frame frameSize).2 := by
  have overTcp : (Sender.mk tcp rtpPacket).socket.Reliable := tcpReliable
  have overUdp : (Sender.mk udp rtpPacket).socket.Reliable := udpReliable
  constructor
  · obtain ⟨_, tcpMiddle, tcpSends, tcpResult⟩ :=
      sendManagerWith_sends (tcpFrame 0x00) overTcp rec filesize
    obtain ⟨_, udpMiddle, udpSends, udpResult⟩ :=
      sendManagerWith_sends udpFrame overUdp rec filesize
    rw [show (sendManagerTcp ⟨tcp, rtpPacket⟩ rec filesize).2 = _ from tcpResult,
      show (sendManager ⟨udp, rtpPacket⟩ rec filesize).2 = _ from udpResult]
    exact .of_sends _ rfl tcpSends udpSends (nalPayloads_small rec filesize)
  · obtain ⟨tcpMiddle, tcpSends, tcpResult⟩ :=
      rtpSendAACFrameWith_sends (tcpFrame 0x02) overTcp frame frameSize (by omega)
    obtain ⟨udpMiddle, udpSends, udpResult⟩ :=
      rtpSendAACFrameWith_sends udpFrame overUdp frame frameSize (by omega)
    rw [show (rtpSendAACFrameTcp ⟨tcp, rtpPacket⟩ frame frameSize).2 = _ from
        congrArg Prod.snd tcpResult,
      show (rtpSendAACFrame ⟨udp, rtpPacket⟩ frame frameSize).2 = _ from congrArg Prod.snd udpResult]
    exact .of_sends _ rfl tcpSends udpSends (aacPayload_small frame frameSize size.2)

/-- One NAL unit and one AAC frame leave alike over both transports. -/
theorem transports_agree_short :
    let sender := wholeSender
    TransportsAgree 0x00 sender (sendManagerTcp sender (fun _ => 0x65) 3).2
        sender (sendManager sender (fun _ => 0x65) 3).2 ∧
      TransportsAgree 0x02 sender (rtpSendAACFrameTcp sender (fun _ => 0x24) 2).2
        sender (rtpSendAACFrame sender (fun _ => 0x24) 2).2 :=
  transports_agree wholeSender.socket wholeSender.socket wholeSender_delivers.reliable
    wholeSender_delivers.reliable wholeSender.rtpPacket (fun _ => 0x65) 3 (fun _ => 0x24) 2
    (by decide)

end FzServer.Packetisation
