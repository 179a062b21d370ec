import FzServer.Construction.Rtp.RtpPacket

/-
This file sends RTP packets over a socket whose results are arbitrary.
-/

namespace FzServer.Rtp

open Foundation

/-- The result of a call may depend on its place in the run and on its buffer. -/
structure Socket where
  results : Nat → List UInt8 → Int
  sent : List (List UInt8)

/-- The log keeps each buffer that the server hands to the kernel. -/
def Socket.send (socket : Socket) (buffer : List UInt8) : Int × Socket :=
  (socket.results socket.sent.length buffer, { socket with sent := socket.sent ++ [buffer] })

/-- No call on this socket fails. -/
def Socket.Reliable (socket : Socket) : Prop :=
  ∀ index buffer, 0 ≤ socket.results index buffer

/-- A media thread owns one packet buffer and writes to one socket. -/
structure Sender where
  socket : Socket
  rtpPacket : RtpPacket

def Sender.withPayload (sender : Sender) (payload : Memory UInt8) : Sender :=
  { sender with rtpPacket := { sender.rtpPacket with payload } }

def Sender.withHeader (sender : Sender) (rtpHeader : RtpHeader) : Sender :=
  { sender with rtpPacket := { sender.rtpPacket with rtpHeader } }

/-- The sequence number wraps at sixteen bits. -/
def RtpHeader.next (header : RtpHeader) : RtpHeader := { header with seq := header.seq + 1 }

/-- The timestamp wraps at thirty-two bits. -/
def RtpHeader.after (header : RtpHeader) (ticks : UInt32) : RtpHeader :=
  { header with timestamp := header.timestamp + ticks }

/-- Every sender swaps the header, copies the packet, sends it, and swaps the header back. -/
def transmit (frame : List UInt8 → List UInt8) (sender : Sender) (size : Nat) : Int × Sender :=
  let network := sender.withHeader sender.rtpPacket.rtpHeader.hton
  let result := sender.socket.send (frame (network.rtpPacket.bytes (RTP_HEADER_SIZE + size)))
  let sent : Sender := { network with socket := result.2 }
  (result.1, sent.withHeader sent.rtpPacket.rtpHeader.ntoh)

/-- The prefix is a dollar sign, the channel, and the low sixteen bits of the size. -/
def tcpFrame (channel : UInt8) (packet : List UInt8) : List UInt8 :=
  let rtpSize : UInt32 := UInt32.ofNat packet.length
  [0x24, channel, ((rtpSize &&& 0xFF00) >>> 8).toUInt8, (rtpSize &&& 0xFF).toUInt8] ++ packet

/-- A datagram carries the packet alone. -/
def udpFrame (packet : List UInt8) : List UInt8 := packet

def rtpSendPacketOverTcp (sender : Sender) (dataSize : Nat) (channel : UInt8) : Int × Sender :=
  transmit (tcpFrame channel) sender dataSize

def rtpSendPacketOverUdp (sender : Sender) (dataSize : Nat) : Int × Sender :=
  transmit udpFrame sender dataSize

/-- This is the RTP packet on the wire. -/
def wirePacket (header : RtpHeader) (payload : List UInt8) : List UInt8 :=
  header.hton.image ++ payload

/-- Consecutive packets carry consecutive sequence numbers. -/
def wirePackets : RtpHeader → List (List UInt8) → List (List UInt8)
  | _, [] => []
  | header, payload :: payloads => wirePacket header payload :: wirePackets header.next payloads

/-- This header follows the given number of packets. -/
def RtpHeader.skip (header : RtpHeader) : Nat → RtpHeader
  | 0 => header
  | count + 1 => header.next.skip count

@[simp] theorem wirePacket_length (header : RtpHeader) (payload : List UInt8) :
    (wirePacket header payload).length = RTP_HEADER_SIZE + payload.length := by
  simp [wirePacket]

@[simp] theorem wirePacket_drop (header : RtpHeader) (payload : List UInt8) :
    (wirePacket header payload).drop RTP_HEADER_SIZE = payload := by
  rw [wirePacket, ← image_length header.hton, List.drop_left]

theorem wirePackets_append (header : RtpHeader) (first second : List (List UInt8)) :
    wirePackets header (first ++ second) =
      wirePackets header first ++ wirePackets (header.skip first.length) second := by
  induction first generalizing header with
  | nil => rfl
  | cons payload first ih =>
      simp only [List.cons_append, wirePackets, ih, List.length_cons, RtpHeader.skip]

theorem skip_skip (header : RtpHeader) (first second : Nat) :
    (header.skip first).skip second = header.skip (first + second) := by
  induction first generalizing header with
  | zero => rw [Nat.zero_add, RtpHeader.skip]
  | succ first ih => rw [Nat.succ_add, RtpHeader.skip, RtpHeader.skip, ih]

/-- The payloads of consecutive packets are read back behind their headers. -/
theorem wirePackets_payloads (header : RtpHeader) (payloads : List (List UInt8)) :
    (wirePackets header payloads).map (List.drop RTP_HEADER_SIZE) = payloads := by
  induction payloads generalizing header with
  | nil => rfl
  | cons payload payloads ih => simp only [wirePackets, List.map_cons, wirePacket_drop, ih]

/-- The call hands one framed wire packet to the socket and keeps the packet buffer. -/
theorem transmit_eq (frame : List UInt8 → List UInt8) (sender : Sender) (size : Nat) :
    transmit frame sender size =
      let result := sender.socket.send
        (frame (wirePacket sender.rtpPacket.rtpHeader (window sender.rtpPacket.payload 0 size)))
      (result.1, { sender with socket := result.2 }) := by
  simp [transmit, Sender.withHeader, bytes_eq, wirePacket]

/-- The prefix has four bytes. -/
theorem tcpFrame_drop (channel : UInt8) (packet : List UInt8) :
    (tcpFrame channel packet).drop 4 = packet := rfl

end FzServer.Rtp
