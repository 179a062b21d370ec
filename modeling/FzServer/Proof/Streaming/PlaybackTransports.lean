import FzServer.Proof.Streaming.TrackStreams

/-
This file compares a playback over UDP with a playback of the same files over TCP.
-/

namespace FzServer.Streaming

open Foundation Rtp H264 Aac Media Packetisation

variable {frame frame' : List UInt8 → List UInt8}

/-- Both sockets give the same answer to the same packet in the same place. -/
def AnswersAlike (frame frame' : List UInt8 → List UInt8)
    (results results' : Nat → List UInt8 → Int) : Prop :=
  ∀ place packet, results place (frame packet) < 0 ↔ results' place (frame' packet) < 0

/-- Both senders have handed over the same packets, and both are about to send the same one. -/
structure InStep (frame frame' : List UInt8 → List UInt8) (one two : Sender) : Prop where
  header : one.rtpPacket.rtpHeader = two.rtpPacket.rtpHeader
  answers : AnswersAlike frame frame' one.socket.results two.socket.results
  sent : ∃ packets : List (List UInt8), one.socket.sent = packets.map frame ∧
    two.socket.sent = packets.map frame'

section Logs

variable {results results' : Nat → List UInt8 → Int}

end Logs

theorem InStep.place {one two : Sender} (inStep : InStep frame frame' one two) :
    one.socket.sent.length = two.socket.sent.length := by
  obtain ⟨packets, first, second⟩ := inStep.sent
  rw [first, second, List.length_map, List.length_map]

section Video

end Video

section Audio

end Audio

section Playback

variable (packetHeap : RtpPacket) {results results' : Nat → List UInt8 → Int}

end Playback

end FzServer.Streaming
