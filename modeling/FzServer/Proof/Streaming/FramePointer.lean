import FzServer.Proof.Streaming.AudioFile
import Mathlib.Data.List.Count

/-
This file follows the frame pointer of the audio loop through a well-formed file.
-/

namespace FzServer.Streaming

open Foundation Rtp Aac Media Packetisation

/-- The frame has a checksum behind its header. -/
def AdtsFrame.hasCrc (frame : AdtsFrame) : Bool := frame.crc.isSome

theorem check_length_hasCrc (frame : AdtsFrame) :
    frame.check.length = if frame.hasCrc then 2 else 0 := by
  rw [check_length, AdtsFrame.hasCrc]
  cases frame.crc <;> rfl

/-- The file splits in front of a turn, and each checksum behind has moved the pointer by two. -/
def PointerMoved (frames : List AdtsFrame) (state : AudioState) : Prop :=
  ∃ done rest, frames = done ++ rest ∧ state.fp.unread = encodeAudio rest ∧
    state.frame = 2 * done.countP AdtsFrame.hasCrc

variable (send : Sender → Memory UInt8 → UInt32 → Int × Sender)

section Turns

variable {send} {frames : List AdtsFrame} {state : AudioState}

theorem PointerMoved.goes {next : AudioState} (moved : PointerMoved frames state)
    (on : audioTurn send state = .inr next) : PointerMoved frames next := by
  obtain ⟨done, rest, split, ahead, pointer⟩ := moved
  cases rest with
  | nil => nomatch (audioTurn_end send ahead).symm.trans on
  | cons frame rest =>
      obtain ⟨turn, left, skip, _⟩ := audioTurn_frame send ahead
      cases turn.symm.trans on
      refine ⟨done ++ [frame], rest, ?_, left, ?_⟩
      · rw [split, List.append_assoc, List.singleton_append]
      · change state.frame + state.skipped = _
        rw [pointer, skip, check_length_hasCrc, List.countP_append, List.countP_singleton,
          Nat.mul_add]
        cases frame.hasCrc <;> rfl

/-- The loop ends behind the last frame only. -/
theorem PointerMoved.leaves {run : AudioRun} (moved : PointerMoved frames state)
    (ends : audioTurn send state = .inl run) :
    run.frame = 2 * frames.countP AdtsFrame.hasCrc := by
  obtain ⟨done, rest, split, ahead, pointer⟩ := moved
  cases rest with
  | nil =>
      rw [audioTurn_stops ends, split, List.append_nil]
      exact pointer
  | cons frame rest =>
      obtain ⟨turn, _⟩ := audioTurn_frame send ahead
      nomatch turn.symm.trans ends

end Turns

/-- The pointer stands where the allocation starts in front of every turn and when it is freed. -/
def KeepsPointer (start : AudioState) (run : AudioRun) : Prop :=
  (∀ state, Visits (audioTurn send) start state → state.frame = 0) ∧ run.frame = 0

/-- The audio thread frees a pointer that each checksum has moved by two bytes. -/
theorem sendAacOver_frame (frames : List AdtsFrame) (heap : Memory UInt8)
    (packetHeap : RtpPacket) (socket : Socket) :
    ∃ run, sendAacOver send (some (encodeAudio frames)) heap packetHeap socket = some run ∧
      run.frame = 2 * frames.countP AdtsFrame.hasCrc := by
  have first : PointerMoved frames (audioStart (encodeAudio frames) heap packetHeap socket) :=
    ⟨[], frames, rfl, rfl, rfl⟩
  obtain ⟨run, ends, pointer⟩ := loop_ends_with (fun state : AudioState => state.fp.unread.length)
    (PointerMoved frames) (fun run : AudioRun => run.frame = 2 * frames.countP AdtsFrame.hasCrc)
    (fun _ _ moved on => ⟨moved.goes on, audioTurn_spends on⟩)
    (fun _ _ moved ends => moved.leaves ends) first
  exact ⟨run, (sendAacOver_eq_loop send _ heap packetHeap socket).trans ends, pointer⟩

/-- The pointer stays exactly in the files without a checksum. -/
theorem sendAacOver_keepsPointer_iff (frames : List AdtsFrame) (heap : Memory UInt8)
    (packetHeap : RtpPacket) (socket : Socket) :
    ∃ run, sendAacOver send (some (encodeAudio frames)) heap packetHeap socket = some run ∧
      (KeepsPointer send (audioStart (encodeAudio frames) heap packetHeap socket) run ↔
        ∀ frame ∈ frames, frame.crc = none) := by
  obtain ⟨run, ran, pointer⟩ := sendAacOver_frame send frames heap packetHeap socket
  refine ⟨run, ran, ?_, ?_⟩
  · rintro ⟨_, kept⟩ frame member
    have count : frames.countP AdtsFrame.hasCrc = 0 := by omega
    have absent := List.countP_eq_zero.mp count frame member
    rw [AdtsFrame.hasCrc] at absent
    simpa using absent
  · intro absent
    have count (part : List AdtsFrame) (inside : part ⊆ frames) :
        part.countP AdtsFrame.hasCrc = 0 := by
      rw [List.countP_eq_zero]
      intro frame member
      rw [AdtsFrame.hasCrc, absent frame (inside member)]
      decide
    refine ⟨fun state visits => ?_, ?_⟩
    · obtain ⟨done, rest, split, _, moved⟩ := visits.invariant (PointerMoved frames)
        ⟨[], frames, rfl, rfl, rfl⟩ fun _ _ moved on => moved.goes on
      rw [moved, count done (by rw [split]; exact List.subset_append_left done rest), Nat.mul_zero]
    · rw [pointer, count frames (List.Subset.refl frames), Nat.mul_zero]

/-- Both audio threads keep the frame pointer exactly in the files without a checksum. -/
theorem sendAac_keepsPointer_iff (frames : List AdtsFrame) (heap : Memory UInt8)
    (packetHeap : RtpPacket) (socket : Socket) :
    let start := audioStart (encodeAudio frames) heap packetHeap socket
    (∃ run, sendAacOverTcp (some (encodeAudio frames)) heap packetHeap socket = some run ∧
        loop (audioTurn rtpSendAACFrameTcp) ((encodeAudio frames).length + 1) start = some run ∧
        (KeepsPointer rtpSendAACFrameTcp start run ↔ ∀ frame ∈ frames, frame.crc = none)) ∧
      ∃ run, sendAacOverUdp (some (encodeAudio frames)) heap packetHeap socket = some run ∧
        loop (audioTurn rtpSendAACFrame) ((encodeAudio frames).length + 1) start = some run ∧
        (KeepsPointer rtpSendAACFrame start run ↔ ∀ frame ∈ frames, frame.crc = none) := by
  have both (send : Sender → Memory UInt8 → UInt32 → Int × Sender) :=
    sendAacOver_keepsPointer_iff send frames heap packetHeap socket
  constructor
  · obtain ⟨run, ran, kept⟩ := both rtpSendAACFrameTcp
    exact ⟨run, ran, (sendAacOver_eq_loop _ _ heap packetHeap socket).symm.trans ran, kept⟩
  · obtain ⟨run, ran, kept⟩ := both rtpSendAACFrame
    exact ⟨run, ran, (sendAacOver_eq_loop _ _ heap packetHeap socket).symm.trans ran, kept⟩

/-- One frame with a checksum leaves both pointers two bytes behind the allocation. -/
theorem sendAac_losesPointer :
    let start := audioStart (encodeAudio mixedFrames) (fun _ => 0) wholeSender.rtpPacket
      wholeSender.socket
    (∃ run, sendAacOverTcp (some (encodeAudio mixedFrames)) (fun _ => 0) wholeSender.rtpPacket
        wholeSender.socket = some run ∧ run.frame = 2 ∧
        ¬KeepsPointer rtpSendAACFrameTcp start run) ∧
      ∃ run, sendAacOverUdp (some (encodeAudio mixedFrames)) (fun _ => 0) wholeSender.rtpPacket
        wholeSender.socket = some run ∧ run.frame = 2 ∧
        ¬KeepsPointer rtpSendAACFrame start run := by
  have frees (send : Sender → Memory UInt8 → UInt32 → Int × Sender) :=
    sendAacOver_frame send mixedFrames (fun _ => 0) wholeSender.rtpPacket wholeSender.socket
  constructor
  · obtain ⟨run, ran, moved⟩ := frees rtpSendAACFrameTcp
    exact ⟨run, ran, moved, fun kept => absurd (moved.symm.trans kept.2) (by decide)⟩
  · obtain ⟨run, ran, moved⟩ := frees rtpSendAACFrame
    exact ⟨run, ran, moved, fun kept => absurd (moved.symm.trans kept.2) (by decide)⟩

end FzServer.Streaming
