import FzServer.Proof.Packetisation.SendTrace

/-
This file carries a relation between sender states from one socket call to whole media.
-/

namespace FzServer.Packetisation

open Foundation Rtp H264 Aac

/-- The relation composes and holds across each call, whether or not the call succeeds. -/
structure SendSteps (frame : List UInt8 → List UInt8) (related : Sender → Sender → Prop) :
    Prop where
  refl : ∀ sender, related sender sender
  trans : ∀ {before middle after}, related before middle → related middle after →
    related before after
  ticks : ∀ (sender : Sender) (ticks : UInt32),
    related sender (sender.withHeader (sender.rtpPacket.rtpHeader.after ticks))
  failed : ∀ (sender : Sender) (payload : Memory UInt8) (size : Nat),
    (transmit frame (sender.withPayload payload) size).1 < 0 →
      related sender (transmit frame (sender.withPayload payload) size).2
  sent : ∀ (sender : Sender) (payload : Memory UInt8) (size : Nat),
    ¬(transmit frame (sender.withPayload payload) size).1 < 0 →
      related sender ((transmit frame (sender.withPayload payload) size).2.withHeader
        (transmit frame (sender.withPayload payload) size).2.rtpPacket.rtpHeader.next)

/-- This is the sender behind a step that may fail. -/
def Outcome (result : Except Sender Progress) : Sender :=
  match result with
  | .error sender => sender
  | .ok progress => progress.sender

section Units

variable {frame : List UInt8 → List UInt8} {related : Sender → Sender → Prop}
  (steps : SendSteps frame related)

include steps

theorem sendFragment_steps (rec : Memory UInt8) (header : UInt8) (length : Nat)
    (progress : Progress) :
    related progress.sender
      (Outcome (sendFragment (transmit frame) rec header length progress)) := by
  rw [sendFragment]
  split_ifs with bad
  · exact steps.failed _ _ _ bad
  · exact steps.sent _ _ _ bad

/-- The induction follows the fragments up to the one that fails. -/
theorem sendSplit_steps (rec : Memory UInt8) (split_size remain_size remaining i : Nat)
    (progress : Progress) :
    related progress.sender
      (Outcome (sendSplit (transmit frame) rec split_size remain_size remaining i progress)) := by
  induction remaining generalizing i progress with
  | zero => exact steps.refl progress.sender
  | succ remaining ih =>
      have one := sendFragment_steps steps rec (fuHeader (rec 0) split_size remain_size i)
        RTP_MAX_PKT_SIZE progress
      rw [sendSplit]
      cases fragment : sendFragment (transmit frame) rec
          (fuHeader (rec 0) split_size remain_size i) RTP_MAX_PKT_SIZE progress with
      | error sender =>
          rw [fragment] at one
          exact one
      | ok next =>
          rw [fragment] at one
          exact steps.trans one (ih (i + 1) { next with pos := next.pos + RTP_MAX_PKT_SIZE })

theorem sendRemain_steps (rec : Memory UInt8) (remain_size : Nat) (progress : Progress) :
    related progress.sender (Outcome (sendRemain (transmit frame) rec remain_size progress)) := by
  rw [sendRemain]
  split_ifs with left
  · exact sendFragment_steps steps rec _ remain_size progress
  · exact steps.refl progress.sender

/-- The relation holds across one NAL unit. -/
theorem sendManagerWith_steps (sender : Sender) (rec : Memory UInt8) (filesize : Nat) :
    related sender (sendManagerWith (transmit frame) sender rec filesize).2 := by
  by_cases single : filesize ≤ RTP_MAX_PKT_SIZE
  · simp only [sendManagerWith, if_pos single]
    split_ifs with bad keeps
    · exact steps.failed _ _ _ bad
    · exact steps.sent _ _ _ bad
    · exact steps.trans (steps.sent _ _ _ bad) (steps.ticks _ _)
  · have full := sendSplit_steps steps rec (filesize / RTP_MAX_PKT_SIZE)
      (filesize % RTP_MAX_PKT_SIZE) (filesize / RTP_MAX_PKT_SIZE) 0 ⟨0, 1, sender⟩
    simp only [sendManagerWith, if_neg single]
    cases split : sendSplit (transmit frame) rec (filesize / RTP_MAX_PKT_SIZE)
        (filesize % RTP_MAX_PKT_SIZE) (filesize / RTP_MAX_PKT_SIZE) 0 ⟨0, 1, sender⟩ with
    | error failed =>
        rw [split] at full
        exact full
    | ok progress =>
        rw [split] at full
        have rest := sendRemain_steps steps rec (filesize % RTP_MAX_PKT_SIZE) progress
        dsimp only
        cases remain : sendRemain (transmit frame) rec (filesize % RTP_MAX_PKT_SIZE) progress with
        | error failed =>
            rw [remain] at rest
            exact steps.trans full rest
        | ok last =>
            rw [remain] at rest
            exact steps.trans (steps.trans full rest) (steps.ticks _ _)

/-- The relation holds across one AAC frame. -/
theorem rtpSendAACFrameWith_steps (sender : Sender) (raw : Memory UInt8) (frameSize : UInt32) :
    related sender (rtpSendAACFrameWith (transmit frame) sender raw frameSize).2 := by
  rw [rtpSendAACFrameWith]
  split_ifs with bad
  · exact steps.failed _ _ _ bad
  · exact steps.trans (steps.sent _ _ _ bad) (steps.ticks _ _)

/-- A relation that holds across each unit holds across the loop over the units. -/
theorem sendUnitsOver_steps {send : Sender → Memory UInt8 → Nat → Int × Sender}
    (each : ∀ sender rec filesize, related sender (send sender rec filesize).2)
    (sender : Sender) (units : List (Memory UInt8 × Nat)) :
    related sender (sendUnitsOver send sender units) := by
  induction units generalizing sender with
  | nil => exact steps.refl sender
  | cons unit units ih =>
      rw [sendUnitsOver]
      split_ifs with failed
      · exact each sender unit.1 unit.2
      · exact steps.trans (each sender unit.1 unit.2) (ih _)

/-- A relation that holds across each frame holds across the loop over the frames. -/
theorem sendFramesOver_steps {send : Sender → Memory UInt8 → UInt32 → Int × Sender}
    (each : ∀ sender raw frameSize, related sender (send sender raw frameSize).2)
    (sender : Sender) (frames : List (Memory UInt8 × UInt32)) :
    related sender (sendFramesOver send sender frames) := by
  induction frames generalizing sender with
  | nil => exact steps.refl sender
  | cons frame frames ih => exact steps.trans (each sender frame.1 frame.2) (ih _)

end Units

/-- These buffers joined the log in this frame. -/
def Framed (frame : List UInt8 → List UInt8) (before after : Sender) : Prop :=
  ∃ packets : List (List UInt8),
    after.socket.sent = before.socket.sent ++ packets.map frame

/-- Every call hands over one framed packet. -/
theorem framed_steps (frame : List UInt8 → List UInt8) : SendSteps frame (Framed frame) where
  refl _ := ⟨[], (List.append_nil _).symm⟩
  trans := by
    rintro before middle after ⟨first, one⟩ ⟨second, two⟩
    exact ⟨first ++ second, by rw [two, one, List.map_append, List.append_assoc]⟩
  ticks _ _ := ⟨[], (List.append_nil _).symm⟩
  failed sender payload size _ := by
    rw [transmit_eq]
    exact ⟨[wirePacket sender.rtpPacket.rtpHeader (window payload 0 size)], rfl⟩
  sent sender payload size _ := by
    rw [transmit_eq]
    exact ⟨[wirePacket sender.rtpPacket.rtpHeader (window payload 0 size)], rfl⟩

end FzServer.Packetisation
