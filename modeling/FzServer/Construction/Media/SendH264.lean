import FzServer.Construction.Container.SendManager
import FzServer.Construction.Container.StartCode

/-
This file streams the NAL units of the H.264 file.
-/

namespace FzServer.Media

open Foundation Rtp H264

def H264_FILE_BUFFER : Nat := 650000

/-- The record keeps each unit that the loop handed to the packetiser. -/
structure VideoRun where
  ret : Int
  calls : List (List UInt8)
  /-- These files were opened and not closed. -/
  leftOpen : Nat
  sender : Sender

/-- The loop reads a chunk, cuts the unit at its front, seeks behind it, and sends it. -/
def videoLoop (sendUnit : Sender → Memory UInt8 → Nat → Int × Sender) :
    Nat → FileStream UInt8 → Memory UInt8 → Sender → List (List UInt8) → Option VideoRun
  | 0, _, _, _, _ => none
  | fuel + 1, fp, buffer, sender, calls =>
      let chunk := fp.fread H264_FILE_BUFFER
      let rec_ := overlay buffer 0 chunk.1
      let size := chunk.1.length
      if size = 0 then some { ret := 0, calls, leftOpen := 0, sender }
      else
        match extract_content rec_ chunk.2 size with
        | none => some { ret := -1, calls, leftOpen := 1, sender }
        | some (found, moved) =>
            let step := if startCode4 rec_ then 4 else if startCode3 rec_ then 3 else 0
            let filesize := found - step
            let unit := rec_.advance step
            let result := sendUnit sender unit filesize
            let made := calls ++ [window unit 0 filesize]
            if result.1 = -1 then
              some { ret := -1, calls := made, leftOpen := 1, sender := result.2 }
            else videoLoop sendUnit fuel moved rec_ result.2 made

/-- Each turn of the loop that continues reads at least one byte, so the length is enough fuel. -/
def sendH264Over (sendUnit : Sender → Memory UInt8 → Nat → Int × Sender)
    (file : Option (List UInt8)) (heap : Memory UInt8) (packetHeap : RtpPacket)
    (socket : Socket) : Option VideoRun :=
  let rtpPacket := rtpHeaderInit packetHeap 0 0 0 RTP_VESION RTP_PAYLOAD_TYPE_H264 0 0 0 0x88923423
  match file with
  | none => some { ret := -1, calls := [], leftOpen := 0, sender := ⟨socket, packetHeap⟩ }
  | some content =>
      videoLoop sendUnit (content.length + 1) ⟨content, 0⟩ heap ⟨socket, rtpPacket⟩ []

def sendH264OverTcp : Option (List UInt8) → Memory UInt8 → RtpPacket → Socket → Option VideoRun :=
  sendH264Over sendManagerTcp

def sendH264OverUdp : Option (List UInt8) → Memory UInt8 → RtpPacket → Socket → Option VideoRun :=
  sendH264Over sendManager

end FzServer.Media
