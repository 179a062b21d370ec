import FzServer.Construction.Container.SendManager

/-
This file decodes the twelve header bytes of a packet on the wire.
-/

namespace FzServer.Packetisation

open Foundation Rtp H264

/-- The fields stand in the order of the bit stream. -/
structure WireHeader where
  version : Nat
  padding : Nat
  extension : Nat
  csrcLen : Nat
  marker : Nat
  payloadType : Nat
  seq : Nat
  timestamp : Nat
  ssrc : Nat

/-- The most significant byte comes first in each number. -/
def bigEndian (bytes : List UInt8) : Nat :=
  bytes.foldl (fun value byte => 256 * value + byte.toNat) 0

/-- The most significant bits of the first two bytes come first, and the payload comes last. -/
def decodeRtp : List UInt8 → Option (WireHeader × List UInt8)
  | byte0 :: byte1 :: byte2 :: byte3 :: byte4 :: byte5 :: byte6 :: byte7 :: byte8 :: byte9 ::
      byte10 :: byte11 :: payload =>
      some ({ version := byte0.toNat / 64
              padding := byte0.toNat / 32 % 2
              extension := byte0.toNat / 16 % 2
              csrcLen := byte0.toNat % 16
              marker := byte1.toNat / 128
              payloadType := byte1.toNat % 128
              seq := bigEndian [byte2, byte3]
              timestamp := bigEndian [byte4, byte5, byte6, byte7]
              ssrc := bigEndian [byte8, byte9, byte10, byte11] }, payload)
  | _ => none

/-- These are the values of the fields in memory. -/
def wireHeader (header : RtpHeader) : WireHeader where
  version := header.version.toNat
  padding := header.padding.toNat
  extension := header.extension.toNat
  csrcLen := header.csrcLen.toNat
  marker := header.marker.toNat
  payloadType := header.payloadType.toNat
  seq := header.seq.toNat
  timestamp := header.timestamp.toNat
  ssrc := header.ssrc.toNat

theorem bigEndian_16 (word : UInt16) :
    bigEndian (littleEndian (htons word).toBitVec 2) = word.toNat := by
  obtain ⟨low, high⟩ := byteOf_reverse16 word.toBitVec
  have whole := byteOf_toNat word.toBitVec
  rw [← low, ← high] at whole
  change 256 * (256 * 0 + (byteOf (reverse16 word.toBitVec) 0).toNat) +
    (byteOf (reverse16 word.toBitVec) 1).toNat = word.toBitVec.toNat
  omega

theorem bigEndian_32 (word : UInt32) :
    bigEndian (littleEndian (htonl word).toBitVec 4) = word.toNat := by
  obtain ⟨first, second, third, fourth⟩ := byteOf_reverse32 word.toBitVec
  have whole := byteOf_toNat_32 word.toBitVec
  rw [← first, ← second, ← third, ← fourth] at whole
  change 256 * (256 * (256 * (256 * 0 + (byteOf (reverse32 word.toBitVec) 0).toNat) +
    (byteOf (reverse32 word.toBitVec) 1).toNat) + (byteOf (reverse32 word.toBitVec) 2).toNat) +
      (byteOf (reverse32 word.toBitVec) 3).toNat = word.toBitVec.toNat
  omega

/-- The first byte holds the version, the two flags, and the count of sources. -/
theorem firstByte_toNat (header : RtpHeader) :
    (UInt8.ofBitVec (header.version ++ header.padding ++ header.extension ++
        header.csrcLen)).toNat =
      64 * header.version.toNat + 32 * header.padding.toNat + 16 * header.extension.toNat +
        header.csrcLen.toNat := by
  change (header.version ++ header.padding ++ header.extension ++ header.csrcLen).toNat = _
  simp only [append_toNat, Nat.shiftLeft_eq]
  omega

theorem secondByte_toNat (header : RtpHeader) :
    (UInt8.ofBitVec (header.marker ++ header.payloadType)).toNat =
      128 * header.marker.toNat + header.payloadType.toNat := by
  change (header.marker ++ header.payloadType).toNat = _
  rw [append_toNat, Nat.shiftLeft_eq]
  omega

/-- The receiver reads every field of the header and the payload off the wire. -/
theorem decodeRtp_wirePacket (header : RtpHeader) (payload : List UInt8) :
    decodeRtp (wirePacket header payload) = some (wireHeader header, payload) := by
  have first := firstByte_toNat header
  have second := secondByte_toNat header
  have number := bigEndian_16 header.seq
  have time := bigEndian_32 header.timestamp
  have source := bigEndian_32 header.ssrc
  have bits0 := header.csrcLen.isLt
  have bits1 := header.extension.isLt
  have bits2 := header.padding.isLt
  have bits3 := header.payloadType.isLt
  generalize byte0 : UInt8.ofBitVec (header.version ++ header.padding ++ header.extension ++
    header.csrcLen) = flags at first
  generalize byte1 : UInt8.ofBitVec (header.marker ++ header.payloadType) = kind at second
  have read : decodeRtp (wirePacket header payload) = some
      ({ version := flags.toNat / 64
         padding := flags.toNat / 32 % 2
         extension := flags.toNat / 16 % 2
         csrcLen := flags.toNat % 16
         marker := kind.toNat / 128
         payloadType := kind.toNat % 128
         seq := bigEndian (littleEndian (htons header.seq).toBitVec 2)
         timestamp := bigEndian (littleEndian (htonl header.timestamp).toBitVec 4)
         ssrc := bigEndian (littleEndian (htonl header.ssrc).toBitVec 4) }, payload) := by
    rw [← byte0, ← byte1]
    rfl
  rw [read, number, time, source, wireHeader]
  congr
  all_goals omega

/-- The call hands over one buffer, the receiver reads it back, and the packet in memory is kept. -/
structure HandsOver (prefixSize : Nat) (sender : Sender) (size : Nat) (result : Int × Sender) :
    Prop where
  buffer : ∃ buffer, result.2.socket.sent = sender.socket.sent ++ [buffer] ∧
    result.1 = sender.socket.results sender.socket.sent.length buffer ∧
    decodeRtp (buffer.drop prefixSize) =
      some (wireHeader sender.rtpPacket.rtpHeader, window sender.rtpPacket.payload 0 size)
  kept : result.2.rtpPacket = sender.rtpPacket

theorem transmit_handsOver {prefixSize : Nat} {frame : List UInt8 → List UInt8}
    (strip : ∀ packet, (frame packet).drop prefixSize = packet) (sender : Sender) (size : Nat) :
    HandsOver prefixSize sender size (transmit frame sender size) := by
  rw [transmit_eq]
  refine ⟨⟨frame (wirePacket sender.rtpPacket.rtpHeader (window sender.rtpPacket.payload 0 size)),
    rfl, rfl, ?_⟩, rfl⟩
  rw [strip, decodeRtp_wirePacket]

/-- All four calls hand over the header and the payload for every result of the socket. -/
theorem senders_handOver (sender : Sender) (size : Nat) (channel : UInt8) :
    HandsOver 0 sender size (sendOverUdp sender size) ∧
      HandsOver 4 sender size (sendOverTcp channel sender size) ∧
      HandsOver 0 sender size (rtpSendPacketOverUdp sender size) ∧
      HandsOver 4 sender size (rtpSendPacketOverTcp sender size channel) := by
  have udp := @transmit_handsOver 0 udpFrame (fun _ => rfl) sender size
  have tcp := @transmit_handsOver 4 (tcpFrame channel) (tcpFrame_drop channel) sender size
  exact ⟨udp, tcp, udp, tcp⟩

end FzServer.Packetisation
