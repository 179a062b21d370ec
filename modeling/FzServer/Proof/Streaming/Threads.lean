import FzServer.Construction.Media.SendH264Aac
import FzServer.Proof.Packetisation.SendSteps
import FzServer.Proof.Streaming.Turns

/-
This file follows both media threads through any files to their ends.
-/

namespace FzServer.Streaming

open Foundation Rtp H264 Aac Media Packetisation

section Loops

variable {frame : List UInt8 → List UInt8} {related : Sender → Sender → Prop}
  (steps : SendSteps frame related)

include steps

/-- Each turn that goes on costs some of the file, and each call keeps the relation. -/
theorem videoLoop_steps {send : Sender → Memory UInt8 → Nat → Int × Sender}
    (each : ∀ sender rec filesize, related sender (send sender rec filesize).2)
    (start : VideoState) :
    ∃ run, loop (videoTurn send) (start.fp.unread.length + 1) start = some run ∧
      related start.sender run.sender := by
  refine loop_ends_with (fun state : VideoState => state.fp.unread.length)
    (fun state => related start.sender state.sender)
    (fun run => related start.sender run.sender)
    (fun state next kept on => ⟨?_, videoTurn_spends on⟩)
    (fun state run kept leaves => ?_) (steps.refl start.sender)
  · obtain ⟨found, moved, _, _, _, rfl⟩ := videoTurn_goes on
    exact steps.trans kept (each _ _ _)
  · rcases videoTurn_stops leaves with ⟨_, rfl⟩ | ⟨_, _, rfl⟩ | ⟨found, moved, _, _, _, rfl⟩
    · exact kept
    · exact kept
    · exact steps.trans kept (each _ _ _)

theorem audioLoop_steps {send : Sender → Memory UInt8 → UInt32 → Int × Sender}
    (each : ∀ sender raw frameSize, related sender (send sender raw frameSize).2)
    (start : AudioState) :
    ∃ run, loop (audioTurn send) (start.fp.unread.length + 1) start = some run ∧
      related start.sender run.sender := by
  refine loop_ends_with (fun state : AudioState => state.fp.unread.length)
    (fun state => related start.sender state.sender)
    (fun run => related start.sender run.sender)
    (fun state next kept on => ⟨?_, audioTurn_spends on⟩)
    (fun state run kept leaves => ?_) (steps.refl start.sender)
  · obtain ⟨_, rfl⟩ := audioTurn_goes on
    exact steps.trans kept (each _ _ _)
  · rw [audioTurn_stops leaves]
    exact kept

end Loops

/-- The video thread ends, and it sends on channel 0 alone. -/
theorem sendH264OverTcp_framed (file : Option (List UInt8)) (heap : Memory UInt8)
    (packetHeap : RtpPacket) (socket : Socket) :
    ∃ run, sendH264OverTcp file heap packetHeap socket = some run ∧
      Framed (tcpFrame 0x00) ⟨socket, packetHeap⟩ run.sender := by
  cases file with
  | none => exact ⟨_, rfl, (framed_steps (tcpFrame 0x00)).refl _⟩
  | some content =>
      have steps := framed_steps (tcpFrame 0x00)
      obtain ⟨run, ends, framed⟩ := videoLoop_steps steps (sendManagerWith_steps steps)
        (videoStart content heap packetHeap socket)
      exact ⟨run, (sendH264Over_eq_loop content heap packetHeap socket).trans ends, framed⟩

/-- The audio thread ends, and it sends on channel 2 alone. -/
theorem sendAacOverTcp_framed (file : Option (List UInt8)) (heap : Memory UInt8)
    (packetHeap : RtpPacket) (socket : Socket) :
    ∃ run, sendAacOverTcp file heap packetHeap socket = some run ∧
      Framed (tcpFrame 0x02) ⟨socket, packetHeap⟩ run.sender := by
  cases file with
  | none => exact ⟨_, rfl, (framed_steps (tcpFrame 0x02)).refl _⟩
  | some content =>
      have steps := framed_steps (tcpFrame 0x02)
      obtain ⟨run, ends, framed⟩ := audioLoop_steps steps (rtpSendAACFrameWith_steps steps)
        (audioStart content heap packetHeap socket)
      exact ⟨run, (sendAacOver_eq_loop _ content heap packetHeap socket).trans ends, framed⟩

/-- This buffer holds a packet on the channel. -/
def OnChannel (channel : UInt8) (buffer : List UInt8) : Prop := buffer.take 2 = [0x24, channel]

instance (channel : UInt8) (buffer : List UInt8) : Decidable (OnChannel channel buffer) :=
  inferInstanceAs (Decidable (_ = _))

/-- A log that starts empty holds framed packets alone. -/
theorem framed_onChannel {channel : UInt8} {before after : Sender}
    (framed : Framed (tcpFrame channel) before after) (fresh : before.socket.sent = []) :
    ∀ buffer ∈ after.socket.sent, OnChannel channel buffer := by
  obtain ⟨packets, sent⟩ := framed
  intro buffer member
  rw [sent, fresh, List.nil_append] at member
  obtain ⟨packet, _, rfl⟩ := List.mem_map.mp member
  rfl

/-- Both threads end, and each of them uses its own channel. -/
theorem sendH264AacOverTcp_channels (source : MediaSource) :
    ∃ run, sendH264AacOverTcp source = some run ∧
      (∀ buffer ∈ run.audio.sender.socket.sent, OnChannel 0x02 buffer) ∧
      ∀ buffer ∈ run.video.sender.socket.sent, OnChannel 0x00 buffer := by
  obtain ⟨audio, audioRan, audioFramed⟩ := sendAacOverTcp_framed source.aacFile source.aacHeap
    source.aacPacketHeap ⟨source.aacResults, []⟩
  obtain ⟨video, videoRan, videoFramed⟩ := sendH264OverTcp_framed source.h264File source.h264Heap
    source.h264PacketHeap ⟨source.h264Results, []⟩
  refine ⟨⟨audio, video⟩, ?_, framed_onChannel audioFramed rfl, framed_onChannel videoFramed rfl⟩
  rw [sendH264AacOverTcp, audioRan, Option.bind_some, videoRan]
  rfl

end FzServer.Streaming
