import FzServer.Construction.Container.Adts
import FzServer.Construction.Container.AdtsHeader
import FzServer.Foundation.FileStream

/-
This file streams the frames of the AAC file.
-/

namespace FzServer.Media

open Foundation Rtp Aac

/-- The frame buffer has this size. -/
def AAC_BUFFER_SIZE : Nat := 50000

/-- The record keeps each frame that the loop handed to the packetiser. -/
structure AudioRun where
  ret : Int
  calls : List (List UInt8)
  /-- The pointer that the loop frees has moved this far from the allocation. -/
  frame : Nat
  /-- These files were opened and not closed. -/
  leftOpen : Nat
  sender : Sender

/-- The variable `rSize` is an `int` that takes the number of bytes read. -/
def readSize (cells : List UInt8) : Int := (cells.length : Int).bmod 4294967296

/-- The loop reads a header and then the frame behind it to where the frame pointer stands. -/
def audioLoop (sendFrame : Sender → Memory UInt8 → UInt32 → Int × Sender) :
    Nat → FileStream UInt8 → Memory UInt8 → Nat → Sender → List (List UInt8) → Option AudioRun
  | 0, _, _, _, _, _ => none
  | fuel + 1, fp, buffer, frame, sender, calls =>
      let stopped : AudioRun := { ret := 0, calls, frame, leftOpen := 0, sender }
      let head := fp.fread 7
      let headed := overlay buffer frame head.1
      if readSize head.1 ≤ 0 then some stopped
      else
        let parsed := parseAdtsHeader (headed.advance frame)
        if parsed.1 = -1 then some stopped
        else
          -- The subtraction wraps for a length below seven.
          let body := head.2.fread (parsed.2.aacFrameLength - 7).toNat
          let filled := overlay headed frame body.1
          let rSize := readSize body.1
          if rSize ≤ 0 then some stopped
          else
            -- The pointer moves over the CRC and never moves back.
            let skipped := if parsed.2.protectionAbsent = 0 then 2 else 0
            let moved := frame + skipped
            let frameSize := UInt32.ofInt (rSize - skipped)
            let raw := filled.advance moved
            let result := sendFrame sender raw frameSize
            audioLoop sendFrame fuel body.2 filled moved result.2
              (calls ++ [window raw 0 frameSize.toNat])

/-- Each turn of the loop that continues reads at least two bytes, so the length is enough fuel. -/
def sendAacOver (sendFrame : Sender → Memory UInt8 → UInt32 → Int × Sender)
    (file : Option (List UInt8)) (heap : Memory UInt8) (packetHeap : RtpPacket)
    (socket : Socket) : Option AudioRun :=
  let rtpPacket := rtpHeaderInit packetHeap 0 0 0 RTP_VESION RTP_PAYLOAD_TYPE_AAC 1 0 0 0x32611
  match file with
  | none => some { ret := -1, calls := [], frame := 0, leftOpen := 0, sender := ⟨socket, packetHeap⟩ }
  | some content =>
      audioLoop sendFrame (content.length + 1) ⟨content, 0⟩ heap 0 ⟨socket, rtpPacket⟩ []

def sendAacOverTcp : Option (List UInt8) → Memory UInt8 → RtpPacket → Socket → Option AudioRun :=
  sendAacOver rtpSendAACFrameTcp

def sendAacOverUdp : Option (List UInt8) → Memory UInt8 → RtpPacket → Socket → Option AudioRun :=
  sendAacOver rtpSendAACFrame

end FzServer.Media
