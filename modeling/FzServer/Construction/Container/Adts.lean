import FzServer.Construction.Rtp.Sender

/-
This file sends one AAC frame behind its AU header.
-/

namespace FzServer.Aac

open Foundation Rtp

/-- The AU header section holds the thirteen-bit size of one access unit. -/
def auHeaders (frameSize : UInt32) : List UInt8 :=
  [0x00, 0x10, ((frameSize &&& 0x1FE0) >>> 5).toUInt8, ((frameSize &&& 0x1F) <<< 3).toUInt8]

/-- The two transports differ only in the call that sends the packet. -/
def rtpSendAACFrameWith (rtpSendPacket : Sender → Nat → Int × Sender) (sender : Sender)
    (frame : Memory UInt8) (frameSize : UInt32) : Int × Sender :=
  let headed := overlay sender.rtpPacket.payload 0 (auHeaders frameSize)
  let filled := sender.withPayload (memcpy headed 4 frame 0 frameSize.toNat)
  let result := rtpSendPacket filled (frameSize + 4).toNat
  if result.1 < 0 then (-1, result.2)
  else (0, result.2.withHeader (result.2.rtpPacket.rtpHeader.next.after 1025))

def rtpSendAACFrame : Sender → Memory UInt8 → UInt32 → Int × Sender :=
  rtpSendAACFrameWith rtpSendPacketOverUdp

def rtpSendAACFrameTcp : Sender → Memory UInt8 → UInt32 → Int × Sender :=
  rtpSendAACFrameWith (fun sender dataSize => rtpSendPacketOverTcp sender dataSize 0x02)

end FzServer.Aac
