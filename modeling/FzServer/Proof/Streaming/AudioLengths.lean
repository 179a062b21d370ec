import FzServer.Proof.Streaming.AudioFile

/-
This file checks the lengths that the audio loop computes.
-/

namespace FzServer.Streaming

open Foundation Rtp Aac Media Packetisation

namespace AudioState

variable (state : AudioState)

/-- The turn reads a header that the parser accepts. -/
def Accepts : Prop := 0 < readSize state.head ∧ state.parsed.1 ≠ -1

/-- The second read stays inside the buffer, and the size passed on inside what was read. -/
structure StaysInside : Prop where
  count : state.count.toNat ≤ AAC_BUFFER_SIZE
  size : 0 < readSize state.body → state.frameSize.toNat ≤ state.body.length

/-- These bytes follow the header in the file. -/
def left : Nat := (state.fp.fread 7).2.unread.length

/-- The frame has its header, and its checksum does not stop after one byte. -/
def Complete : Prop :=
  7 ≤ state.parsed.2.aacFrameLength.toNat ∧
    ¬(state.parsed.2.protectionAbsent = 0 ∧
      min (state.parsed.2.aacFrameLength.toNat - 7) state.left = 1)

theorem body_length : state.body.length = min state.count.toNat state.left := by
  rw [body, FileStream.fread_cells, List.length_take]
  rfl

variable {state}

theorem Accepts.length (accepts : state.Accepts) : state.parsed.2.aacFrameLength.toNat ≤ 8191 := by
  have accepted := accepts.2
  rw [parsed] at accepted ⊢
  by_cases sync : state.headed.advance state.frame 0 = 0xFF ∧
      state.headed.advance state.frame 1 &&& 0xF0 = 0xF0
  · rw [(parseAdtsHeader_accepted sync).2.2, frameLength_toNat]
    have middle := (state.headed.advance state.frame 4).toNat_lt
    have low := (state.headed.advance state.frame 5).toNat_lt
    omega
  · rw [parseAdtsHeader, if_neg sync] at accepted
    exact absurd rfl accepted

/-- A length below seven makes the subtraction wrap. -/
theorem count_toNat (accepts : state.Accepts) :
    state.count.toNat =
      if 7 ≤ state.parsed.2.aacFrameLength.toNat then state.parsed.2.aacFrameLength.toNat - 7
      else state.parsed.2.aacFrameLength.toNat + 4294967289 := by
  have small := accepts.length
  rw [count, UInt32.toNat_sub]
  change (4294967296 - 7 + state.parsed.2.aacFrameLength.toNat) % 4294967296 = _
  split_ifs <;> omega

theorem skipped_cases (state : AudioState) :
    (state.parsed.2.protectionAbsent = 0 ∧ state.skipped = 2) ∨
      (state.parsed.2.protectionAbsent ≠ 0 ∧ state.skipped = 0) := by
  rw [skipped]
  by_cases protect : state.parsed.2.protectionAbsent = 0
  · exact .inl ⟨protect, if_pos protect⟩
  · exact .inr ⟨protect, if_neg protect⟩

/-- A body of one byte is too short for the checksum, and its size wraps. -/
theorem frameSize_wraps (single : state.body.length = 1) (checked : state.skipped = 2) :
    state.frameSize.toNat = 4294967295 := by
  rw [frameSize, readSize_small (by omega), single, checked]
  rfl

/-- The lengths stay inside exactly for complete frames. -/
theorem staysInside_iff (accepts : state.Accepts) : state.StaysInside ↔ state.Complete := by
  have count := count_toNat accepts
  have length := accepts.length
  have read := state.body_length
  have buffer : AAC_BUFFER_SIZE = 50000 := rfl
  by_cases headed : 7 ≤ state.parsed.2.aacFrameLength.toNat
  · rw [if_pos headed] at count
    rw [count] at read
    have small : state.body.length < 2147483648 := by omega
    have inside : state.count.toNat ≤ AAC_BUFFER_SIZE := by omega
    rw [Complete, ← read]
    obtain ⟨protect, skip⟩ | ⟨protect, skip⟩ := skipped_cases state
    · constructor
      · rintro ⟨_, size⟩
        refine ⟨headed, fun ⟨_, single⟩ => ?_⟩
        have passed := size (by rw [readSize_small small, single]; decide)
        rw [frameSize_wraps single skip, single] at passed
        exact absurd passed (by decide)
      · rintro ⟨_, checked⟩
        refine ⟨inside, fun delivers => ?_⟩
        rw [readSize_small small] at delivers
        have more : state.body.length ≠ 1 := fun single => checked ⟨protect, single⟩
        rw [frameSize_toNat small (by omega)]
        exact Nat.sub_le _ _
    · refine ⟨fun _ => ⟨headed, fun short => protect short.1⟩, fun _ => ⟨inside, fun _ => ?_⟩⟩
      rw [frameSize_toNat small (by omega)]
      exact Nat.sub_le _ _
  · rw [if_neg headed] at count
    exact ⟨fun stays => absurd stays.count (by omega), fun complete => absurd complete.1 headed⟩

end AudioState

section Runs

variable (send : Sender → Memory UInt8 → UInt32 → Int × Sender) (start : AudioState)

/-- The lengths stay inside in every turn of the run that accepts its header. -/
def LengthsStayInside : Prop :=
  ∀ state, Visits (audioTurn send) start state → state.Accepts → state.StaysInside

/-- Every header that the run accepts stands in front of a complete frame. -/
def FramesComplete : Prop :=
  ∀ state, Visits (audioTurn send) start state → state.Accepts → state.Complete

theorem lengthsStayInside_iff : LengthsStayInside send start ↔ FramesComplete send start :=
  forall₃_congr fun _ _ accepts => AudioState.staysInside_iff accepts

end Runs

/-- Both audio threads keep their lengths inside exactly in the files whose frames are complete. -/
theorem sendAac_staysInside_iff (content : List UInt8) (heap : Memory UInt8)
    (packetHeap : RtpPacket) (socket : Socket) :
    let start := audioStart content heap packetHeap socket
    (sendAacOverTcp (some content) heap packetHeap socket =
          loop (audioTurn rtpSendAACFrameTcp) (content.length + 1) start ∧
        (LengthsStayInside rtpSendAACFrameTcp start ↔ FramesComplete rtpSendAACFrameTcp start)) ∧
      (sendAacOverUdp (some content) heap packetHeap socket =
          loop (audioTurn rtpSendAACFrame) (content.length + 1) start ∧
        (LengthsStayInside rtpSendAACFrame start ↔ FramesComplete rtpSendAACFrame start)) :=
  ⟨⟨sendAacOver_eq_loop _ content heap packetHeap socket, lengthsStayInside_iff _ _⟩,
    ⟨sendAacOver_eq_loop _ content heap packetHeap socket, lengthsStayInside_iff _ _⟩⟩

/-- A frame with a checksum ends behind one byte, and a header gives the frame no length. -/
theorem sendAac_leavesInside :
    ¬LengthsStayInside rtpSendAACFrameTcp
        (audioStart [0xFF, 0xF0, 0x50, 0x80, 0x01, 0x1F, 0xFC, 0xAA] (fun _ => 0)
          wholeSender.rtpPacket wholeSender.socket) ∧
      ¬LengthsStayInside rtpSendAACFrame
        (audioStart [0xFF, 0xF1, 0x50, 0x80, 0x00, 0x1F, 0xFC, 0xAA] (fun _ => 0)
          wholeSender.rtpPacket wholeSender.socket) := by
  constructor
  · intro inside
    have stays := inside _ .start ⟨by decide +kernel, by decide +kernel⟩
    exact absurd (stays.size (by decide +kernel)) (by decide +kernel)
  · intro inside
    have stays := inside _ .start ⟨by decide +kernel, by decide +kernel⟩
    exact absurd stays.count (by decide +kernel)

end FzServer.Streaming
