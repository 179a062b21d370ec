import FzServer.Construction.Media.SendAac
import FzServer.Construction.Media.SendH264
import FzServer.Foundation.FrameCodec

/-
This file starts the audio thread and the video thread of one client.
-/

namespace FzServer.Media

open Foundation Rtp

/-- Each thread finds its file, its memory, and the results of its calls on the shared descriptor. -/
structure MediaSource where
  aacFile : Option (List UInt8)
  aacHeap : Memory UInt8
  aacPacketHeap : RtpPacket
  aacResults : Nat → List UInt8 → Int
  h264File : Option (List UInt8)
  h264Heap : Memory UInt8
  h264PacketHeap : RtpPacket
  h264Results : Nat → List UInt8 → Int

structure MediaRun where
  audio : AudioRun
  video : VideoRun

/-- Both threads run to their ends, and their own results are dropped. -/
def sendH264AacOverTcp (source : MediaSource) : Option MediaRun :=
  (sendAacOverTcp source.aacFile source.aacHeap source.aacPacketHeap
      ⟨source.aacResults, []⟩).bind fun audio =>
    (sendH264OverTcp source.h264File source.h264Heap source.h264PacketHeap
      ⟨source.h264Results, []⟩).map fun video => ⟨audio, video⟩

/-- Over UDP each thread has the server socket of its own track. -/
def sendH264AacOverUdp (source : MediaSource) : Option MediaRun :=
  (sendAacOverUdp source.aacFile source.aacHeap source.aacPacketHeap
      ⟨source.aacResults, []⟩).bind fun audio =>
    (sendH264OverUdp source.h264File source.h264Heap source.h264PacketHeap
      ⟨source.h264Results, []⟩).map fun video => ⟨audio, video⟩

/-- The descriptor takes the buffers of the two threads in any order that keeps both. -/
def MediaRun.Merges (run : MediaRun) (merged : List (List UInt8)) : Prop :=
  Interleaving run.audio.sender.socket.sent run.video.sender.socket.sent merged

end FzServer.Media
