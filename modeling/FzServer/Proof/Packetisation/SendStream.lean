import FzServer.Proof.Packetisation.Depacketise
import FzServer.Proof.Packetisation.SequenceNumbers

/-
This file computes what each sender hands over and what arrives, for every pattern of failures.
-/

namespace FzServer.Packetisation

open Foundation Rtp H264 Aac

/-- These buffers are handed over one after another up to the first that is refused. -/
def handed (results : Nat → List UInt8 → Int) : Nat → List (List UInt8) → List (List UInt8)
  | _, [] => []
  | place, buffer :: buffers =>
      buffer :: if results place buffer < 0 then [] else handed results (place + 1) buffers

section Handed

variable {results : Nat → List UInt8 → Int} {place : Nat} {first second : List (List UInt8)}

theorem handed_takes (takes : Takes results place first) :
    handed results place (first ++ second) =
      first ++ handed results (place + first.length) second := by
  induction first generalizing place with
  | nil => rfl
  | cons buffer first ih =>
      rw [List.cons_append, handed, if_neg (Int.not_lt.mpr takes.1), ih takes.2, List.cons_append,
        List.length_cons, Nat.add_assoc, Nat.add_comm 1]

theorem handed_all (takes : Takes results place first) : handed results place first = first := by
  have all := @handed_takes results place first [] takes
  rwa [List.append_nil, handed, List.append_nil] at all

theorem handed_refused {last : List UInt8} (takes : Takes results place first)
    (fails : results (place + first.length) last < 0) :
    handed results place (first ++ last :: second) = first ++ [last] := by
  rw [handed_takes takes, handed, if_pos fails]

/-- What is handed over behind a refused buffer does not matter. -/
theorem handed_append_refused (refused : ¬Takes results place first) :
    handed results place (first ++ second) = handed results place first := by
  induction first generalizing place with
  | nil => exact absurd trivial refused
  | cons buffer first ih =>
      rw [List.cons_append, handed, handed]
      by_cases fails : results place buffer < 0
      · rw [if_pos fails, if_pos fails]
      · rw [if_neg fails, if_neg fails,
          ih fun takes => refused ⟨Int.not_lt.mp fails, takes⟩]

end Handed

/-- The next unit starts with this header when every packet of this one was taken. -/
def afterUnit (header : RtpHeader) (unit : Memory UInt8 × Nat) : RtpHeader :=
  (header.skip (nalPayloads unit.1 unit.2).length).after (nalTicks unit.1 unit.2)

/-- These packets carry the units when no call fails. -/
def unitPackets : RtpHeader → List (Memory UInt8 × Nat) → List (List UInt8)
  | _, [] => []
  | header, unit :: units =>
      wirePackets header (nalPayloads unit.1 unit.2) ++
        unitPackets (afterUnit header unit) units

/-- This packet carries the frame. The size of the payload wraps like the sum in the source. -/
def framePayload (frame : Memory UInt8 × UInt32) : List UInt8 :=
  (aacPayload frame.1 frame.2).take (frame.2 + 4).toNat

/-- A packet that was taken moves the number by one and the clock by 1025. -/
def framePackets : RtpHeader → List (List UInt8) → List (List UInt8)
  | _, [] => []
  | header, payload :: payloads =>
      wirePacket header payload :: framePackets (header.next.after 1025) payloads

variable (frame : List UInt8 → List UInt8)

section Units

/-- One call hands over the packets of its unit up to the first refused one. -/
structure HandsUnit (sender : Sender) (unit : Memory UInt8 × Nat) (result : Int × Sender) :
    Prop where
  results : result.2.socket.results = sender.socket.results
  sent : result.2.socket.sent = sender.socket.sent ++
    handed sender.socket.results sender.socket.sent.length
      (framesOf frame sender (nalPayloads unit.1 unit.2))
  refused : result.1 = -1 ↔ ¬Accepts frame sender (nalPayloads unit.1 unit.2)
  header : Accepts frame sender (nalPayloads unit.1 unit.2) →
    result.2.rtpPacket.rtpHeader = afterUnit sender.rtpPacket.rtpHeader unit

theorem sendManagerWith_hands (sender : Sender) (rec : Memory UInt8) (filesize : Nat) :
    HandsUnit frame sender (rec, filesize)
      (sendManagerWith (transmit frame) sender rec filesize) := by
  rcases sendManagerWith_outcome frame sender rec filesize with
    ⟨failed, refuses⟩ | ⟨positive, middle, delivers, result⟩
  · have refused := refuses.not_accepts
    obtain ⟨results, taken, last, rest, split, sent, takes, fails⟩ := refuses
    refine ⟨results, ?_, iff_of_true failed refused, fun accepts => absurd accepts refused⟩
    rw [sent, split, handed_refused takes fails, List.append_assoc]
  · have accepts : Accepts frame sender (nalPayloads rec filesize) := delivers.accepts
    refine ⟨?_, ?_, iff_of_false (by omega) (not_not_intro accepts), fun _ => ?_⟩
    · rw [result]
      exact delivers.results
    · rw [result, handed_all accepts]
      exact delivers.sent
    · rw [result]
      change middle.rtpPacket.rtpHeader.after _ = _
      rw [delivers.header]
      rfl

/-- The video loop hands over the packets of its units up to the first refused one. -/
theorem sendUnitsOver_handed (sender : Sender) (units : List (Memory UInt8 × Nat)) :
    (sendUnitsOver (sendManagerWith (transmit frame)) sender units).socket.sent =
      sender.socket.sent ++ handed sender.socket.results sender.socket.sent.length
        ((unitPackets sender.rtpPacket.rtpHeader units).map frame) := by
  induction units generalizing sender with
  | nil => exact (List.append_nil _).symm
  | cons unit units ih =>
      have hands := sendManagerWith_hands frame sender unit.1 unit.2
      rw [sendUnitsOver, unitPackets, List.map_append]
      change _ = sender.socket.sent ++ handed _ _ (framesOf frame sender _ ++ _)
      split_ifs with failed
      · rw [hands.sent, handed_append_refused (hands.refused.mp failed)]
      · have accepts : Accepts frame sender (nalPayloads unit.1 unit.2) :=
          not_not.mp (mt hands.refused.mpr failed)
        rw [ih, hands.header accepts, hands.results, hands.sent, handed_all accepts,
          handed_takes accepts, List.append_assoc, List.length_append]

end Units

section Frames

/-- One call hands over one packet, and the header moves when the socket takes it. -/
theorem rtpSendAACFrameWith_hands (sender : Sender) (raw : Memory UInt8) (frameSize : UInt32) :
    let buffer := frame (wirePacket sender.rtpPacket.rtpHeader (framePayload (raw, frameSize)))
    let result := rtpSendAACFrameWith (transmit frame) sender raw frameSize
    result.2.socket = (sender.socket.send buffer).2 ∧
      result.2.rtpPacket.rtpHeader = if (sender.socket.send buffer).1 < 0 then
        sender.rtpPacket.rtpHeader else sender.rtpPacket.rtpHeader.next.after 1025 := by
  have room : (frameSize + 4).toNat ≤ (auHeaders frameSize).length + frameSize.toNat := by
    rw [UInt32.toNat_add]
    change (frameSize.toNat + 4) % 4294967296 ≤ 4 + frameSize.toNat
    omega
  have payload : window (memcpy (overlay sender.rtpPacket.payload 0 (auHeaders frameSize)) 4 raw 0
      frameSize.toNat) 0 (frameSize + 4).toNat = framePayload (raw, frameSize) := by
    rw [window_take _ 0 room]
    exact congrArg (List.take _) (window_header_memcpy _ raw (auHeaders frameSize) 0 _)
  rw [rtpSendAACFrameWith, transmit_eq]
  simp only [Sender.withPayload, payload]
  split_ifs
  · exact ⟨rfl, rfl⟩
  · exact ⟨rfl, rfl⟩

/-- The second state has the log of the first one in front of its own. -/
structure Extends (before after : Sender) : Prop where
  results : after.socket.results = before.socket.results
  grows : before.socket.sent <+: after.socket.sent

/-- No call takes anything out of the log. -/
theorem extends_steps : SendSteps frame Extends where
  refl _ := ⟨rfl, List.prefix_rfl⟩
  trans one two := ⟨two.results.trans one.results, one.grows.trans two.grows⟩
  ticks _ _ := ⟨rfl, List.prefix_rfl⟩
  failed sender payload size _ := by
    rw [transmit_eq]
    exact ⟨rfl, List.prefix_append _ _⟩
  sent sender payload size _ := by
    rw [transmit_eq]
    exact ⟨rfl, List.prefix_append _ _⟩

/-- What arrives of one frame is its packet, or nothing when the call fails. -/
theorem delivered_frame (sender : Sender) (raw : Memory UInt8) (frameSize : UInt32) :
    let result := rtpSendAACFrameWith (transmit frame) sender raw frameSize
    delivered sender result.2 = [] ∧
        result.2.rtpPacket.rtpHeader = sender.rtpPacket.rtpHeader ∨
      delivered sender result.2 =
          [frame (wirePacket sender.rtpPacket.rtpHeader (framePayload (raw, frameSize)))] ∧
        result.2.rtpPacket.rtpHeader = sender.rtpPacket.rtpHeader.next.after 1025 := by
  intro result
  obtain ⟨socket, header⟩ := rtpSendAACFrameWith_hands frame sender raw frameSize
  have one := delivered_send sender
    (frame (wirePacket sender.rtpPacket.rtpHeader (framePayload (raw, frameSize))))
    result.2.rtpPacket
  rw [← socket] at one
  split_ifs at header with failed
  · rw [if_neg (Int.not_le.mpr failed)] at one
    exact Or.inl ⟨one, header⟩
  · rw [if_pos (Int.not_lt.mp failed)] at one
    exact Or.inr ⟨one, header⟩

/-- The receiver of the audio track gets some of the frames as one stream without a gap. -/
theorem sendFramesOver_delivered (sender : Sender) (frames : List (Memory UInt8 × UInt32)) :
    ∃ kept, kept.Sublist (frames.map framePayload) ∧
      delivered sender (sendFramesOver (rtpSendAACFrameWith (transmit frame)) sender frames) =
        (framePackets sender.rtpPacket.rtpHeader kept).map frame := by
  induction frames generalizing sender with
  | nil => exact ⟨[], List.Sublist.refl _, delivered_same rfl⟩
  | cons first frames ih =>
      have each := rtpSendAACFrameWith_steps (extends_steps frame)
      have now := each sender first.1 first.2
      obtain ⟨kept, sublist, rest⟩ :=
        ih (rtpSendAACFrameWith (transmit frame) sender first.1 first.2).2
      have later := sendFramesOver_steps (extends_steps frame) each
        (rtpSendAACFrameWith (transmit frame) sender first.1 first.2).2 frames
      rw [sendFramesOver, delivered_append later.results now.grows later.grows, rest]
      rcases delivered_frame frame sender first.1 first.2 with ⟨none, same⟩ | ⟨one, moved⟩
      · refine ⟨kept, sublist.cons _, ?_⟩
        rw [none, same, List.nil_append]
      · refine ⟨framePayload first :: kept, sublist.cons_cons _, ?_⟩
        rw [one, moved, framePackets, List.map_cons, List.singleton_append]

theorem rtpPayloads_append {prefixSize : Nat} {before middle after : Sender}
    (one : Extends before middle) (two : Extends middle after) :
    rtpPayloads prefixSize before after =
      rtpPayloads prefixSize before middle ++ rtpPayloads prefixSize middle after := by
  obtain ⟨more, grown⟩ := two.grows
  rw [rtpPayloads, rtpPayloads, rtpPayloads, ← List.map_append, ← grown,
    List.drop_append_of_le_length one.grows.length_le, List.drop_left]

/-- The audio loop hands over the same payloads whatever the socket answers. -/
theorem sendFramesOver_payloads {prefixSize : Nat}
    (strip : ∀ packet, (frame packet).drop prefixSize = packet) (sender : Sender)
    (frames : List (Memory UInt8 × UInt32)) :
    rtpPayloads prefixSize sender
        (sendFramesOver (rtpSendAACFrameWith (transmit frame)) sender frames) =
      frames.map framePayload := by
  induction frames generalizing sender with
  | nil => simp [rtpPayloads, sendFramesOver]
  | cons first frames ih =>
      have each := rtpSendAACFrameWith_steps (extends_steps frame)
      have later := sendFramesOver_steps (extends_steps frame) each
        (rtpSendAACFrameWith (transmit frame) sender first.1 first.2).2 frames
      obtain ⟨socket, _⟩ := rtpSendAACFrameWith_hands frame sender first.1 first.2
      have one : rtpPayloads prefixSize sender
          (rtpSendAACFrameWith (transmit frame) sender first.1 first.2).2 =
            [framePayload first] := by
        rw [rtpPayloads, socket]
        change ((sender.socket.sent ++ [_]).drop _).map _ = _
        rw [List.drop_left, List.map_singleton, ← List.drop_drop, strip, wirePacket_drop]
      rw [sendFramesOver, rtpPayloads_append (each sender first.1 first.2) later, one, ih]
      rfl

end Frames

section Arrival

/-- These buffers arrive when nothing follows the first refused one. -/
def taken (results : Nat → List UInt8 → Int) : Nat → List (List UInt8) → List (List UInt8)
  | _, [] => []
  | place, buffer :: buffers =>
      if results place buffer < 0 then [] else buffer :: taken results (place + 1) buffers

/-- Only the last buffer that is handed over can be refused. -/
theorem handed_taken (results : Nat → List UInt8 → Int) (place : Nat)
    (buffers : List (List UInt8)) :
    (((handed results place buffers).zipIdx place).filter fun entry =>
      0 ≤ results entry.2 entry.1).map Prod.fst = taken results place buffers := by
  induction buffers generalizing place with
  | nil => rfl
  | cons buffer buffers ih =>
      rw [handed, taken, List.zipIdx_cons]
      by_cases fails : results place buffer < 0
      · rw [if_pos fails, if_pos fails, List.zipIdx_nil,
          List.filter_cons_of_neg (by simpa using fails),
          List.filter_nil, List.map_nil]
      · rw [if_neg fails, if_neg fails, List.filter_cons_of_pos (by simpa using fails),
          List.map_cons, ih]

/-- The receiver of the video track gets the front of the packets of the units. -/
theorem sendUnitsOver_delivered (sender : Sender) (units : List (Memory UInt8 × Nat)) :
    delivered sender (sendUnitsOver (sendManagerWith (transmit frame)) sender units) =
      taken sender.socket.results sender.socket.sent.length
        ((unitPackets sender.rtpPacket.rtpHeader units).map frame) := by
  have extends_ := sendUnitsOver_steps (extends_steps frame)
    (sendManagerWith_steps (extends_steps frame)) sender units
  rw [delivered, sendUnitsOver_handed, extends_.results, List.zipIdx_append,
    List.drop_left' List.length_zipIdx, Nat.zero_add, handed_taken]

end Arrival

end FzServer.Packetisation
