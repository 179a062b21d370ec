import FzServer.Construction.Container.Adts
import FzServer.Construction.Container.SendManager

/-
This file computes what each sender hands to a reliable socket.
-/

namespace FzServer.Packetisation

open Foundation Rtp H264 Aac

/-- The second state follows the first after these payloads left in this order. -/
structure Sends (frame : List UInt8 → List UInt8) (payloads : List (List UInt8))
    (before after : Sender) : Prop where
  results : after.socket.results = before.socket.results
  sent : after.socket.sent =
    before.socket.sent ++ (wirePackets before.rtpPacket.rtpHeader payloads).map frame
  header : after.rtpPacket.rtpHeader = before.rtpPacket.rtpHeader.skip payloads.length

variable {frame : List UInt8 → List UInt8} {sender : Sender}

theorem Sends.none (frame : List UInt8 → List UInt8) (sender : Sender) :
    Sends frame [] sender sender := ⟨rfl, by simp [wirePackets], rfl⟩

theorem Sends.trans {first second : List (List UInt8)} {before middle after : Sender}
    (one : Sends frame first before middle) (two : Sends frame second middle after) :
    Sends frame (first ++ second) before after where
  results := two.results.trans one.results
  sent := by
    rw [two.sent, one.sent, one.header, wirePackets_append, List.map_append, List.append_assoc]
  header := by rw [two.header, one.header, skip_skip, List.length_append]

theorem Sends.reliable {payloads : List (List UInt8)} {before after : Sender}
    (sends : Sends frame payloads before after) (reliable : before.socket.Reliable) :
    after.socket.Reliable := by
  intro index buffer
  rw [sends.results]
  exact reliable index buffer

/-- The calls from the given place on take these buffers. -/
def Takes (results : Nat → List UInt8 → Int) : Nat → List (List UInt8) → Prop
  | _, [] => True
  | place, buffer :: buffers => 0 ≤ results place buffer ∧ Takes results (place + 1) buffers

theorem takes_append (results : Nat → List UInt8 → Int) (place : Nat)
    (first second : List (List UInt8)) :
    Takes results place (first ++ second) ↔
      Takes results place first ∧ Takes results (place + first.length) second := by
  induction first generalizing place with
  | nil => simp [Takes]
  | cons buffer first ih =>
      have moved : place + 1 + first.length = place + (first.length + 1) := by omega
      rw [List.cons_append, Takes, Takes, ih, List.length_cons, moved, and_assoc]

theorem Takes.of_reliable {socket : Socket} (reliable : socket.Reliable) (place : Nat)
    (buffers : List (List UInt8)) : Takes socket.results place buffers := by
  induction buffers generalizing place with
  | nil => exact trivial
  | cons buffer buffers ih => exact ⟨reliable place buffer, ih (place + 1)⟩

/-- These buffers carry the payloads. -/
def framesOf (frame : List UInt8 → List UInt8) (sender : Sender) (payloads : List (List UInt8)) :
    List (List UInt8) :=
  (wirePackets sender.rtpPacket.rtpHeader payloads).map frame

/-- The socket takes each of these payloads from the sender. -/
def Accepts (frame : List UInt8 → List UInt8) (sender : Sender) (payloads : List (List UInt8)) :
    Prop :=
  Takes sender.socket.results sender.socket.sent.length (framesOf frame sender payloads)

/-- The second state follows the first after the socket took all payloads. -/
structure Delivers (frame : List UInt8 → List UInt8) (payloads : List (List UInt8))
    (before after : Sender) : Prop extends Sends frame payloads before after where
  accepts : Accepts frame before payloads

/-- The log of the second state ends with the first payload that the socket refused. -/
def Refuses (frame : List UInt8 → List UInt8) (payloads : List (List UInt8))
    (before after : Sender) : Prop :=
  after.socket.results = before.socket.results ∧
    ∃ taken last rest, framesOf frame before payloads = taken ++ last :: rest ∧
      after.socket.sent = before.socket.sent ++ taken ++ [last] ∧
      Takes before.socket.results before.socket.sent.length taken ∧
      before.socket.results (before.socket.sent.length + taken.length) last < 0

section Joined

variable {first second : List (List UInt8)} {before middle after : Sender}

theorem framesOf_append (first second : List (List UInt8))
    (same : middle.rtpPacket.rtpHeader = before.rtpPacket.rtpHeader.skip first.length) :
    framesOf frame before (first ++ second) =
      framesOf frame before first ++ framesOf frame middle second := by
  rw [framesOf, wirePackets_append, List.map_append, framesOf, framesOf, same]

theorem Sends.place (sends : Sends frame first before middle) :
    middle.socket.sent.length =
      before.socket.sent.length + (framesOf frame before first).length := by
  rw [sends.sent, List.length_append, framesOf]

theorem Delivers.none (frame : List UInt8 → List UInt8) (sender : Sender) :
    Delivers frame [] sender sender := ⟨Sends.none frame sender, trivial⟩

theorem Delivers.trans (one : Delivers frame first before middle)
    (two : Delivers frame second middle after) : Delivers frame (first ++ second) before after where
  toSends := one.toSends.trans two.toSends
  accepts := by
    have rest := two.accepts
    rw [Accepts, one.results, one.place] at rest
    rw [Accepts, framesOf_append first second one.header, takes_append]
    exact ⟨one.accepts, rest⟩

/-- What a refused call leaves unsent does not matter. -/
theorem Refuses.append (refuses : Refuses frame first before after) (second : List (List UInt8)) :
    Refuses frame (first ++ second) before after := by
  obtain ⟨results, taken, last, rest, split, sent, takes, fails⟩ := refuses
  let middle := before.withHeader (before.rtpPacket.rtpHeader.skip first.length)
  have both := @framesOf_append frame before middle first second rfl
  refine ⟨results, taken, last, rest ++ framesOf frame middle second, ?_, sent, takes, fails⟩
  rw [both, split, List.append_assoc, List.cons_append]

theorem Delivers.refuses (one : Delivers frame first before middle)
    (two : Refuses frame second middle after) : Refuses frame (first ++ second) before after := by
  obtain ⟨results, taken, last, rest, split, sent, takes, fails⟩ := two
  rw [one.results, one.place] at takes fails
  refine ⟨results.trans one.results, framesOf frame before first ++ taken, last, rest, ?_, ?_,
    (takes_append _ _ _ _).mpr ⟨one.accepts, takes⟩, ?_⟩
  · rw [framesOf_append first second one.header, split, List.append_assoc]
  · rw [sent, one.sent, framesOf, List.append_assoc before.socket.sent]
  · rw [List.length_append, ← Nat.add_assoc]
    exact fails

/-- The socket refuses one of the payloads. -/
theorem Refuses.not_accepts (refuses : Refuses frame first before after) :
    ¬Accepts frame before first := by
  obtain ⟨_, taken, last, rest, split, _, _, fails⟩ := refuses
  rw [Accepts, split, takes_append]
  exact fun takes => absurd takes.2.1 (Int.not_le.mpr fails)

end Joined

variable (frame)

/-- A call hands over one packet, and the sender counts it when the socket takes it. -/
theorem transmit_outcome (sender : Sender) (payload : Memory UInt8) (size : Nat) :
    let result := transmit frame (sender.withPayload payload) size
    (result.1 < 0 ∧ Refuses frame [window payload 0 size] sender result.2) ∨
      (0 ≤ result.1 ∧ Delivers frame [window payload 0 size] sender
        (result.2.withHeader result.2.rtpPacket.rtpHeader.next)) := by
  rw [transmit_eq]
  rcases Int.lt_or_le (sender.socket.results sender.socket.sent.length
    (frame (wirePacket sender.rtpPacket.rtpHeader (window payload 0 size)))) 0 with fails | takes
  · exact Or.inl ⟨fails, rfl, [], _, [], rfl, by rw [List.append_nil]; rfl, trivial, fails⟩
  · exact Or.inr ⟨takes, ⟨rfl, rfl, rfl⟩, takes, trivial⟩

/-- A fragment leaves with its two header bytes. -/
theorem sendFragment_outcome (rec : Memory UInt8) (header : UInt8) (length : Nat)
    (progress : Progress) :
    let payload := fuPayload rec header progress.pos length
    (∃ failed, sendFragment (transmit frame) rec header length progress = .error failed ∧
        Refuses frame [payload] progress.sender failed) ∨
      ∃ next, sendFragment (transmit frame) rec header length progress = .ok next ∧
        next.pos = progress.pos ∧ progress.sendBytes ≤ next.sendBytes ∧
        Delivers frame [payload] progress.sender next.sender := by
  intro payload
  have outcome := transmit_outcome frame progress.sender
    (memcpy (overlay progress.sender.rtpPacket.payload 0 [fuIndicator (rec 0), header]) 2 rec
      progress.pos length) (length + 2)
  have body := window_header_memcpy progress.sender.rtpPacket.payload rec
    [fuIndicator (rec 0), header] progress.pos length
  rw [show [fuIndicator (rec 0), header].length = 2 from rfl, Nat.add_comm] at body
  rw [body] at outcome
  rcases outcome with ⟨negative, refuses⟩ | ⟨positive, delivers⟩
  · exact Or.inl ⟨_, if_pos negative, refuses⟩
  · exact Or.inr ⟨_, if_neg (Int.not_lt.mpr positive), rfl,
      Int.le_add_of_nonneg_right positive, delivers⟩

/-- The loop sends the full fragments in order up to the first that the socket refuses. -/
theorem sendSplit_outcome (rec : Memory UInt8) (split_size remain_size : Nat)
    (remaining i : Nat) (progress : Progress) (position : progress.pos = 1 + RTP_MAX_PKT_SIZE * i) :
    let payloads := splitPayloads rec split_size remain_size i remaining
    (∃ failed, sendSplit (transmit frame) rec split_size remain_size remaining i progress =
          .error failed ∧ Refuses frame payloads progress.sender failed) ∨
      ∃ next, sendSplit (transmit frame) rec split_size remain_size remaining i progress =
          .ok next ∧ next.pos = 1 + RTP_MAX_PKT_SIZE * (i + remaining) ∧
        progress.sendBytes ≤ next.sendBytes ∧
        Delivers frame payloads progress.sender next.sender := by
  induction remaining generalizing i progress with
  | zero =>
      exact Or.inr ⟨progress, rfl, position, Int.le_refl _, Delivers.none frame progress.sender⟩
  | succ remaining ih =>
      have first := sendFragment_outcome frame rec (fuHeader (rec 0) split_size remain_size i)
        RTP_MAX_PKT_SIZE progress
      rw [position] at first
      rcases first with ⟨failed, error, refuses⟩ | ⟨one, sentOne, samePos, grows, delivers⟩
      · exact Or.inl ⟨failed, by rw [sendSplit, error], refuses.append _⟩
      · have moved : one.pos + RTP_MAX_PKT_SIZE = 1 + RTP_MAX_PKT_SIZE * (i + 1) := by
          rw [samePos, Nat.mul_succ, Nat.add_assoc]
        rcases ih (i + 1) { one with pos := one.pos + RTP_MAX_PKT_SIZE } moved with
          ⟨failed, error, refuses⟩ | ⟨last, sentRest, lastPos, growsRest, rest⟩
        · exact Or.inl ⟨failed, by rw [sendSplit, sentOne]; exact error, delivers.refuses refuses⟩
        · refine Or.inr ⟨last, by rw [sendSplit, sentOne]; exact sentRest, ?_,
            Int.le_trans grows growsRest, delivers.trans rest⟩
          rw [lastPos, Nat.add_assoc, Nat.add_comm 1 remaining]

/-- The remainder leaves as the last fragment when it is not empty. -/
theorem sendRemain_outcome (rec : Memory UInt8) (remain_size : Nat) (progress : Progress) :
    let payloads := remainPayloads rec remain_size progress.pos
    (∃ failed, sendRemain (transmit frame) rec remain_size progress = .error failed ∧
        Refuses frame payloads progress.sender failed) ∨
      ∃ next, sendRemain (transmit frame) rec remain_size progress = .ok next ∧
        progress.sendBytes ≤ next.sendBytes ∧
        Delivers frame payloads progress.sender next.sender := by
  by_cases left : remain_size > 0
  · rw [remainPayloads, if_pos left, sendRemain, if_pos left]
    rcases sendFragment_outcome frame rec ((rec 0 &&& 0x1F) ||| 0x40) remain_size progress with
      refused | ⟨next, sent, _, grows, delivers⟩
    · exact Or.inl refused
    · exact Or.inr ⟨next, sent, grows, delivers⟩
  · rw [remainPayloads, if_neg left, sendRemain, if_neg left]
    exact Or.inr ⟨progress, rfl, Int.le_refl _, Delivers.none frame progress.sender⟩

/-- A NAL unit stops at the first payload that the socket refuses, or the timestamp advances. -/
theorem sendManagerWith_outcome (sender : Sender) (rec : Memory UInt8) (filesize : Nat) :
    let result := sendManagerWith (transmit frame) sender rec filesize
    (result.1 = -1 ∧ Refuses frame (nalPayloads rec filesize) sender result.2) ∨
      (0 ≤ result.1 ∧ ∃ middle, Delivers frame (nalPayloads rec filesize) sender middle ∧
        result.2 = middle.withHeader (middle.rtpPacket.rtpHeader.after (nalTicks rec filesize))) := by
  by_cases single : filesize ≤ RTP_MAX_PKT_SIZE
  · have outcome := transmit_outcome frame sender
      (memcpy sender.rtpPacket.payload 0 rec 0 filesize) filesize
    rw [window_memcpy] at outcome
    simp only [sendManagerWith, nalPayloads, nalTicks, single, true_and]
    rcases outcome with ⟨negative, refuses⟩ | ⟨positive, delivers⟩
    · rw [if_pos negative]
      exact Or.inl ⟨rfl, refuses⟩
    · rw [if_neg (Int.not_lt.mpr positive)]
      by_cases keeps : keepsTimestamp (rec 0)
      · rw [if_pos keeps, if_pos keeps]
        exact Or.inr ⟨positive, _, delivers, by simp [Sender.withHeader, RtpHeader.after]⟩
      · rw [if_neg keeps, if_neg keeps]
        exact Or.inr ⟨positive, _, delivers, rfl⟩
  · simp only [sendManagerWith, nalPayloads, nalTicks, single, false_and]
    rcases sendSplit_outcome frame rec (filesize / RTP_MAX_PKT_SIZE)
        (filesize % RTP_MAX_PKT_SIZE) (filesize / RTP_MAX_PKT_SIZE) 0 ⟨0, 1, sender⟩ rfl with
      ⟨failed, error, refuses⟩ | ⟨full, sentFull, fullPos, growsFull, delivers⟩
    · rw [error]
      exact Or.inl ⟨rfl, refuses.append _⟩
    · have rest := sendRemain_outcome frame rec (filesize % RTP_MAX_PKT_SIZE) full
      rw [fullPos, Nat.zero_add] at rest
      rw [sentFull]
      rcases rest with ⟨failed, error, refuses⟩ | ⟨last, sentLast, growsLast, lastDelivers⟩
      · simp only [error]
        exact Or.inl ⟨rfl, delivers.refuses refuses⟩
      · simp only [sentLast]
        exact Or.inr ⟨Int.le_trans growsFull growsLast, last.sender, delivers.trans lastDelivers,
          rfl⟩

/-- A reliable NAL unit leaves as its payloads and then advances the timestamp. -/
theorem sendManagerWith_sends (reliable : sender.socket.Reliable) (rec : Memory UInt8)
    (filesize : Nat) :
    let result := sendManagerWith (transmit frame) sender rec filesize
    0 ≤ result.1 ∧ ∃ middle, Sends frame (nalPayloads rec filesize) sender middle ∧
      result.2 = middle.withHeader (middle.rtpPacket.rtpHeader.after (nalTicks rec filesize)) := by
  rcases sendManagerWith_outcome frame sender rec filesize with
    ⟨_, refuses⟩ | ⟨positive, middle, delivers, result⟩
  · exact absurd (Takes.of_reliable reliable _ _) refuses.not_accepts
  · exact ⟨positive, middle, delivers.toSends, result⟩

/-- The AU header section and the raw frame form one payload. -/
def aacPayload (frame : Memory UInt8) (frameSize : UInt32) : List UInt8 :=
  auHeaders frameSize ++ window frame 0 frameSize.toNat

/-- An AAC frame leaves as one packet, and the timestamp advances when the socket takes it. -/
theorem rtpSendAACFrameWith_outcome (sender : Sender) (raw : Memory UInt8) (frameSize : UInt32)
    (fits : frameSize.toNat + 4 < 0x100000000) :
    let result := rtpSendAACFrameWith (transmit frame) sender raw frameSize
    (result.1 = -1 ∧ Refuses frame [aacPayload raw frameSize] sender result.2) ∨
      ∃ middle, Delivers frame [aacPayload raw frameSize] sender middle ∧
        result = (0, middle.withHeader (middle.rtpPacket.rtpHeader.after 1025)) := by
  have outcome := transmit_outcome frame sender
    (memcpy (overlay sender.rtpPacket.payload 0 (auHeaders frameSize)) 4 raw 0 frameSize.toNat)
    (frameSize + 4).toNat
  have size : (frameSize + 4).toNat = 4 + frameSize.toNat := by
    rw [UInt32.toNat_add, Nat.mod_eq_of_lt (by exact fits), Nat.add_comm]
    rfl
  have body := window_header_memcpy sender.rtpPacket.payload raw (auHeaders frameSize) 0
    frameSize.toNat
  rw [show (auHeaders frameSize).length = 4 from rfl] at body
  rw [size, body] at outcome
  simp only [rtpSendAACFrameWith, size]
  rcases outcome with ⟨negative, refuses⟩ | ⟨positive, delivers⟩
  · rw [if_pos negative]
    exact Or.inl ⟨rfl, refuses⟩
  · rw [if_neg (Int.not_lt.mpr positive)]
    exact Or.inr ⟨_, delivers, rfl⟩

/-- A reliable AAC frame leaves as one packet. -/
theorem rtpSendAACFrameWith_sends (reliable : sender.socket.Reliable) (raw : Memory UInt8)
    (frameSize : UInt32) (fits : frameSize.toNat + 4 < 0x100000000) :
    ∃ middle, Sends frame [aacPayload raw frameSize] sender middle ∧
      rtpSendAACFrameWith (transmit frame) sender raw frameSize =
        (0, middle.withHeader (middle.rtpPacket.rtpHeader.after 1025)) := by
  rcases rtpSendAACFrameWith_outcome frame sender raw frameSize fits with
    ⟨_, refuses⟩ | ⟨middle, delivers, result⟩
  · exact absurd (Takes.of_reliable reliable _ _) refuses.not_accepts
  · exact ⟨middle, delivers.toSends, result⟩

/-- A video loop over either transport stops at the first error. -/
def sendUnitsOver (send : Sender → Memory UInt8 → Nat → Int × Sender) :
    Sender → List (Memory UInt8 × Nat) → Sender
  | sender, [] => sender
  | sender, unit :: units =>
      let result := send sender unit.1 unit.2
      if result.1 = -1 then result.2 else sendUnitsOver send result.2 units

/-- An audio loop over either transport ignores each result. -/
def sendFramesOver (send : Sender → Memory UInt8 → UInt32 → Int × Sender) :
    Sender → List (Memory UInt8 × UInt32) → Sender
  | sender, [] => sender
  | sender, frame :: frames => sendFramesOver send (send sender frame.1 frame.2).2 frames

/-- Each call on this socket delivers its whole buffer. -/
def DeliversAll (socket : Socket) : Prop :=
  ∀ index buffer, socket.results index buffer = buffer.length

theorem DeliversAll.reliable {socket : Socket} (delivers : DeliversAll socket) :
    socket.Reliable := fun index buffer => by
  rw [delivers index buffer]
  exact Int.natCast_nonneg _

/-- This sender has an empty log, and each call on its socket sends the whole buffer. -/
def wholeSender : Sender where
  socket := { results := fun _ buffer => buffer.length, sent := [] }
  rtpPacket := rtpHeaderInit ⟨⟨0, 0, 0, 0, 0, 0, 0, 0, 0⟩, fun _ => 0⟩ 0 0 0 RTP_VESION
    RTP_PAYLOAD_TYPE_H264 0 0 0 0x88923423

theorem wholeSender_delivers : DeliversAll wholeSender.socket := fun _ _ => rfl

end FzServer.Packetisation
