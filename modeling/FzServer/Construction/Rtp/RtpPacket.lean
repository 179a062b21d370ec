import FzServer.Foundation.ByteOrder
import FzServer.Foundation.Memory

/-
This file defines the RTP packet and its image in the memory of a little-endian host.
-/

namespace FzServer.Rtp

open Foundation

def RTP_VESION : BitVec 2 := 2
def RTP_PAYLOAD_TYPE_H264 : BitVec 7 := 96
def RTP_PAYLOAD_TYPE_AAC : BitVec 7 := 97
def RTP_HEADER_SIZE : Nat := 12
def RTP_MAX_PKT_SIZE : Nat := 1400

/-- The bit-fields have the widths of the source. -/
structure RtpHeader where
  csrcLen : BitVec 4
  extension : BitVec 1
  padding : BitVec 1
  version : BitVec 2
  payloadType : BitVec 7
  marker : BitVec 1
  seq : UInt16
  timestamp : UInt32
  ssrc : UInt32
  deriving DecidableEq

/-- The payload array has no length, so a write may reach any address. -/
structure RtpPacket where
  rtpHeader : RtpHeader
  payload : Memory UInt8

def rtpHeaderInit (rtpPacket : RtpPacket) (csrcLen : BitVec 4) (extension padding : BitVec 1)
    (version : BitVec 2) (payloadType : BitVec 7) (marker : BitVec 1) (seq : UInt16)
    (timestamp ssrc : UInt32) : RtpPacket :=
  { rtpPacket with
    rtpHeader := { csrcLen, extension, padding, version, payloadType, marker, seq, timestamp, ssrc } }

/-- A little-endian host reverses the bytes of a word for the network. -/
def htons (value : UInt16) : UInt16 := UInt16.ofBitVec (reverse16 value.toBitVec)

def htonl (value : UInt32) : UInt32 := UInt32.ofBitVec (reverse32 value.toBitVec)

def ntohs (value : UInt16) : UInt16 := htons value

def ntohl (value : UInt32) : UInt32 := htonl value

@[simp] theorem ntohs_htons (value : UInt16) : ntohs (htons value) = value := by
  simp [ntohs, htons]

@[simp] theorem ntohl_htonl (value : UInt32) : ntohl (htonl value) = value := by
  simp [ntohl, htonl]

/-- The senders swap these three fields in place before they copy the packet. -/
def RtpHeader.hton (header : RtpHeader) : RtpHeader :=
  { header with
    seq := htons header.seq, timestamp := htonl header.timestamp, ssrc := htonl header.ssrc }

/-- The senders swap the fields back after the call. -/
def RtpHeader.ntoh (header : RtpHeader) : RtpHeader :=
  { header with
    seq := ntohs header.seq, timestamp := ntohl header.timestamp, ssrc := ntohl header.ssrc }

@[simp] theorem ntoh_hton (header : RtpHeader) : header.hton.ntoh = header := by
  simp [RtpHeader.hton, RtpHeader.ntoh]

/-- The first bit-field of a byte takes its least significant bits. -/
def RtpHeader.image (header : RtpHeader) : List UInt8 :=
  [UInt8.ofBitVec (header.version ++ header.padding ++ header.extension ++ header.csrcLen),
    UInt8.ofBitVec (header.marker ++ header.payloadType)] ++
    littleEndian header.seq.toBitVec 2 ++ littleEndian header.timestamp.toBitVec 4 ++
    littleEndian header.ssrc.toBitVec 4

@[simp] theorem image_length (header : RtpHeader) : header.image.length = RTP_HEADER_SIZE := rfl

/-- The payload follows the header in memory. -/
def RtpPacket.memory (rtpPacket : RtpPacket) : Memory UInt8 :=
  overlay (fun address => rtpPacket.payload (address - RTP_HEADER_SIZE)) 0 rtpPacket.rtpHeader.image

/-- This list holds the first bytes at the address of a packet. -/
def RtpPacket.bytes (rtpPacket : RtpPacket) (size : Nat) : List UInt8 :=
  window rtpPacket.memory 0 size

/-- The packet bytes are the header image and the payload window. -/
theorem bytes_eq (rtpPacket : RtpPacket) (size : Nat) :
    rtpPacket.bytes (RTP_HEADER_SIZE + size) =
      rtpPacket.rtpHeader.image ++ window rtpPacket.payload 0 size := by
  have head : window rtpPacket.memory 0 RTP_HEADER_SIZE = rtpPacket.rtpHeader.image :=
    window_overlay _ 0 rtpPacket.rtpHeader.image
  have body : window rtpPacket.memory RTP_HEADER_SIZE size = window rtpPacket.payload 0 size := by
    apply List.map_congr_left
    intro index _
    rw [RtpPacket.memory, overlay_after _ _ _ _ (by rw [image_length]; omega)]
    congr 1
    omega
  rw [RtpPacket.bytes, window_append, Nat.zero_add, head, body]

end FzServer.Rtp
