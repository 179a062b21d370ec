import FzServer.Construction.Rtp.Sender

/-
This file sends one H.264 NAL unit as a single packet or as FU-A fragments.
-/

namespace FzServer.H264

open Foundation Rtp

/-- The progress of one call records the bytes sent and the read position. -/
structure Progress where
  sendBytes : Int
  pos : Nat
  sender : Sender

def fuIndicator (naluType : UInt8) : UInt8 := (naluType &&& 0x60) ||| 28

/-- The first fragment has the start bit. The last full fragment may have the end bit. -/
def fuHeader (naluType : UInt8) (split_size remain_size i : Nat) : UInt8 :=
  if i = 0 then (naluType &&& 0x1F) ||| 0x80
  else if remain_size = 0 ∧ i = split_size - 1 then (naluType &&& 0x1F) ||| 0x40
  else naluType &&& 0x1F

/-- One fragment overwrites the two header bytes and the body, and then it is sent. -/
def sendFragment (sendOver : Sender → Nat → Int × Sender) (rec : Memory UInt8)
    (header : UInt8) (length : Nat) (progress : Progress) : Except Sender Progress :=
  let headed := overlay progress.sender.rtpPacket.payload 0 [fuIndicator (rec 0), header]
  let filled := progress.sender.withPayload (memcpy headed 2 rec progress.pos length)
  let result := sendOver filled (length + 2)
  if result.1 < 0 then .error result.2
  else .ok {
    sendBytes := progress.sendBytes + result.1
    pos := progress.pos
    sender := result.2.withHeader result.2.rtpPacket.rtpHeader.next }

/-- This loop sends the full fragments from the given index on. -/
def sendSplit (sendOver : Sender → Nat → Int × Sender) (rec : Memory UInt8)
    (split_size remain_size : Nat) : Nat → Nat → Progress → Except Sender Progress
  | 0, _, progress => .ok progress
  | remaining + 1, i, progress =>
      match sendFragment sendOver rec (fuHeader (rec 0) split_size remain_size i)
          RTP_MAX_PKT_SIZE progress with
      | .error sender => .error sender
      | .ok next =>
          sendSplit sendOver rec split_size remain_size remaining (i + 1)
            { next with pos := next.pos + RTP_MAX_PKT_SIZE }

/-- The last fragment carries what the full fragments left. -/
def sendRemain (sendOver : Sender → Nat → Int × Sender) (rec : Memory UInt8) (remain_size : Nat)
    (progress : Progress) : Except Sender Progress :=
  if remain_size > 0 then
    sendFragment sendOver rec ((rec 0 &&& 0x1F) ||| 0x40) remain_size progress
  else .ok progress

/-- The parameter-set types and SEI share the time of the next picture. -/
def keepsTimestamp (naluType : UInt8) : Bool :=
  (naluType &&& 0x1F) = 6 ∨ (naluType &&& 0x1F) = 7 ∨ (naluType &&& 0x1F) = 8

/-- The clock has 90000 ticks a second and the file has 30 pictures a second. -/
def advanceTimestamp (sender : Sender) : Sender :=
  sender.withHeader (sender.rtpPacket.rtpHeader.after (90000 / 30))

/-- The two transports differ only in the call that sends a packet. -/
def sendManagerWith (sendOver : Sender → Nat → Int × Sender) (sender : Sender)
    (rec : Memory UInt8) (filesize : Nat) : Int × Sender :=
  let naluType := rec 0
  if filesize ≤ RTP_MAX_PKT_SIZE then
    let filled := sender.withPayload (memcpy sender.rtpPacket.payload 0 rec 0 filesize)
    let result := sendOver filled filesize
    if result.1 < 0 then (-1, result.2)
    else
      let next := result.2.withHeader result.2.rtpPacket.rtpHeader.next
      if keepsTimestamp naluType then (result.1, next) else (result.1, advanceTimestamp next)
  else
    let split_size := filesize / RTP_MAX_PKT_SIZE
    let remain_size := filesize % RTP_MAX_PKT_SIZE
    match sendSplit sendOver rec split_size remain_size split_size 0 ⟨0, 1, sender⟩ with
    | .error failed => (-1, failed)
    | .ok progress =>
        match sendRemain sendOver rec remain_size progress with
        | .error failed => (-1, failed)
        | .ok last => (last.sendBytes, advanceTimestamp last.sender)

def sendOverUdp : Sender → Nat → Int × Sender := transmit udpFrame

def sendOverTcp (channel : UInt8) : Sender → Nat → Int × Sender := transmit (tcpFrame channel)

def sendManager : Sender → Memory UInt8 → Nat → Int × Sender := sendManagerWith sendOverUdp

def sendManagerTcp : Sender → Memory UInt8 → Nat → Int × Sender :=
  sendManagerWith (sendOverTcp 0x00)

section Payloads

variable (rec : Memory UInt8) (filesize : Nat)

/-- This payload is one FU-A fragment. -/
def fuPayload (header : UInt8) (pos length : Nat) : List UInt8 :=
  [fuIndicator (rec 0), header] ++ window rec pos length

/-- The full fragments start behind the NAL header byte. -/
def splitPayloads (split_size remain_size i count : Nat) : List (List UInt8) :=
  (List.range' i count).map fun index =>
    fuPayload rec (fuHeader (rec 0) split_size remain_size index)
      (1 + RTP_MAX_PKT_SIZE * index) RTP_MAX_PKT_SIZE

/-- The remainder is empty for a multiple of the packet size. -/
def remainPayloads (remain_size pos : Nat) : List (List UInt8) :=
  if remain_size > 0 then [fuPayload rec ((rec 0 &&& 0x1F) ||| 0x40) pos remain_size] else []

/-- These payloads carry one NAL unit. -/
def nalPayloads : List (List UInt8) :=
  if filesize ≤ RTP_MAX_PKT_SIZE then [window rec 0 filesize]
  else
    let split_size := filesize / RTP_MAX_PKT_SIZE
    let remain_size := filesize % RTP_MAX_PKT_SIZE
    splitPayloads rec split_size remain_size 0 split_size ++
      remainPayloads rec remain_size (1 + RTP_MAX_PKT_SIZE * split_size)

/-- Only a single packet of a parameter set or of SEI keeps the timestamp. -/
def nalTicks : UInt32 :=
  if filesize ≤ RTP_MAX_PKT_SIZE ∧ keepsTimestamp (rec 0) then 0 else 90000 / 30

end Payloads

end FzServer.H264
