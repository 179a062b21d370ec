import FzServer.Proof.Packetisation.Depacketise
import FzServer.Proof.Packetisation.Timestamps

/-
This file reads the fragmentation bits off the packets of a long NAL unit.
-/

namespace FzServer.Packetisation

open Foundation Rtp H264

/-- The header of a fragment marks the first and the last one of its unit. -/
structure HeaderMarks (naluType header : UInt8) (first last : Prop) : Prop where
  kind : header &&& 0x1F = naluType &&& 0x1F
  start : header &&& 0x80 ≠ 0 ↔ first
  ends : header &&& 0x40 ≠ 0 ↔ last
  apart : ¬(header &&& 0x80 ≠ 0 ∧ header &&& 0x40 ≠ 0)

/-- A payload carries a piece of a NAL unit and says which piece it is. -/
structure FuFragment (naluType : UInt8) (first last : Prop) (indicator header : UInt8)
    (fragment : List UInt8) : Prop where
  kind : indicator &&& 0x1F = 28
  importance : indicator &&& 0x60 = naluType &&& 0x60
  marks : HeaderMarks naluType header first last
  nonempty : 0 < fragment.length
  bounded : fragment.length ≤ RTP_MAX_PKT_SIZE

/-- These payloads are all the fragments of one NAL unit. -/
structure WellFramed (naluType : UInt8) (payloads : List (List UInt8)) : Prop where
  several : 2 ≤ payloads.length
  fragments : ∀ index payload, payloads[index]? = some payload →
    ∃ indicator header fragment, payload = indicator :: header :: fragment ∧
      FuFragment naluType (index = 0) (index + 1 = payloads.length) indicator header fragment

section Headers

variable {naluType : UInt8} {first last : Prop}

theorem fuIndicator_importance (naluType : UInt8) :
    fuIndicator naluType &&& 0x60 = naluType &&& 0x60 :=
  byte_forall (fun byte => fuIndicator byte &&& 0x60 = byte &&& 0x60) (by decide +kernel) naluType

theorem header_kinds (naluType : UInt8) :
    ((naluType &&& 0x1F) ||| 0x80) &&& 0x1F = naluType &&& 0x1F ∧
      (naluType &&& 0x1F) &&& 0x1F = naluType &&& 0x1F ∧
      ((naluType &&& 0x1F) ||| 0x40) &&& 0x1F = naluType &&& 0x1F :=
  byte_forall (fun byte => ((byte &&& 0x1F) ||| 0x80) &&& 0x1F = byte &&& 0x1F ∧
    (byte &&& 0x1F) &&& 0x1F = byte &&& 0x1F ∧
    ((byte &&& 0x1F) ||| 0x40) &&& 0x1F = byte &&& 0x1F) (by decide +kernel) naluType

theorem startHeader_marks (isFirst : first) (inside : ¬last) :
    HeaderMarks naluType ((naluType &&& 0x1F) ||| 0x80) first last := by
  obtain ⟨starts, continues⟩ := startHeader_bits naluType
  refine ⟨(header_kinds naluType).1, ?_, ?_, ?_⟩
  · exact iff_of_true starts isFirst
  · exact iff_of_false (not_not.mpr continues) inside
  · exact fun both => both.2 continues

theorem middleHeader_marks (behind : ¬first) (inside : ¬last) :
    HeaderMarks naluType (naluType &&& 0x1F) first last := by
  obtain ⟨joins, continues⟩ := middleHeader_bits naluType
  refine ⟨(header_kinds naluType).2.1, ?_, ?_, ?_⟩
  · exact iff_of_false (not_not.mpr joins) behind
  · exact iff_of_false (not_not.mpr continues) inside
  · exact fun both => both.2 continues

theorem endHeader_marks (behind : ¬first) (isLast : last) :
    HeaderMarks naluType ((naluType &&& 0x1F) ||| 0x40) first last := by
  obtain ⟨joins, ends⟩ := endHeader_bits naluType
  refine ⟨(header_kinds naluType).2.2, ?_, ?_, ?_⟩
  · exact iff_of_false (not_not.mpr joins) behind
  · exact iff_of_true ends isLast
  · exact fun both => both.1 joins

/-- The loop marks the last full fragment only when no remainder follows. -/
theorem fuHeader_marks {split_size remain_size index total : Nat} (inside : index < split_size)
    (several : 2 ≤ total) (counted : total = split_size + if 0 < remain_size then 1 else 0) :
    HeaderMarks naluType (fuHeader naluType split_size remain_size index) (index = 0)
      (index + 1 = total) := by
  rw [fuHeader]
  split_ifs with zero tail
  · exact startHeader_marks zero (by omega)
  · obtain ⟨none, position⟩ := tail
    rw [none, if_neg (Nat.lt_irrefl 0)] at counted
    exact endHeader_marks zero (by omega)
  · refine middleHeader_marks zero fun position => tail ?_
    split_ifs at counted with left <;> omega

end Headers

section Payloads

variable (rec : Memory UInt8)

theorem fuPayload_fragment {header : UInt8} {first last : Prop} (pos : Nat) {length : Nat}
    (marks : HeaderMarks (rec 0) header first last)
    (bounds : 0 < length ∧ length ≤ RTP_MAX_PKT_SIZE) :
    ∃ indicator header' fragment,
      fuPayload rec header pos length = indicator :: header' :: fragment ∧
        FuFragment (rec 0) first last indicator header' fragment := by
  refine ⟨_, _, _, rfl, fuIndicator_kind _, fuIndicator_importance _, marks, ?_, ?_⟩
  · change 0 < (window rec pos length).length
    rw [window_length]
    exact bounds.1
  · change (window rec pos length).length ≤ RTP_MAX_PKT_SIZE
    rw [window_length]
    exact bounds.2

theorem splitPayloads_length (split_size remain_size i count : Nat) :
    (splitPayloads rec split_size remain_size i count).length = count := by
  rw [splitPayloads, List.length_map, List.length_range']

theorem remainPayloads_length (remain_size pos : Nat) :
    (remainPayloads rec remain_size pos).length = if 0 < remain_size then 1 else 0 := by
  rw [remainPayloads]
  split_ifs <;> rfl

/-- The full fragments and the remainder make up the unit. -/
theorem nalPayloads_wellFramed {filesize : Nat} (long : RTP_MAX_PKT_SIZE < filesize) :
    WellFramed (rec 0) (nalPayloads rec filesize) := by
  let split_size := filesize / RTP_MAX_PKT_SIZE
  let remain_size := filesize % RTP_MAX_PKT_SIZE
  have total : (nalPayloads rec filesize).length =
      split_size + if 0 < remain_size then 1 else 0 := by
    rw [nalPayloads, if_neg (Nat.not_le.mpr long), List.length_append, splitPayloads_length,
      remainPayloads_length]
  have short : remain_size < RTP_MAX_PKT_SIZE := Nat.mod_lt _ (by decide)
  have several : 2 ≤ (nalPayloads rec filesize).length := by
    have whole : RTP_MAX_PKT_SIZE * split_size + remain_size = filesize :=
      Nat.div_add_mod filesize RTP_MAX_PKT_SIZE
    have size : RTP_MAX_PKT_SIZE = 1400 := rfl
    rw [total]
    clear_value split_size remain_size
    rw [size] at whole long short
    split_ifs with left <;> omega
  refine ⟨several, fun index payload found => ?_⟩
  rw [nalPayloads, if_neg (Nat.not_le.mpr long)] at found
  by_cases full : index < split_size
  · rw [List.getElem?_append_left (by rwa [splitPayloads_length]), splitPayloads,
      List.getElem?_map, List.getElem?_range' full, Option.map_some] at found
    obtain rfl := Option.some.inj found
    rw [Nat.one_mul, Nat.zero_add]
    exact fuPayload_fragment rec _ (fuHeader_marks full several total) ⟨by decide, Nat.le_refl _⟩
  · have behind : split_size ≤ index := Nat.not_lt.mp full
    rw [List.getElem?_append_right (by rwa [splitPayloads_length]),
      splitPayloads_length, remainPayloads] at found
    split_ifs at found with left
    · rw [List.getElem?_singleton] at found
      split_ifs at found with position
      obtain rfl := Option.some.inj found
      rw [if_pos left] at total
      have full_size : 1 ≤ split_size :=
        Nat.div_pos (Nat.le_of_lt long) (by decide)
      exact fuPayload_fragment rec _ (endHeader_marks (by omega) (by omega)) ⟨left, short.le⟩
    · rw [List.getElem?_nil] at found
      cases found

end Payloads

/-- Both transports fragment every long unit as the payload format asks, with one timestamp. -/
theorem fragments_wellFramed (sender : Sender) (reliable : sender.socket.Reliable)
    (rec : Memory UInt8) (filesize : Nat) (long : RTP_MAX_PKT_SIZE < filesize) :
    (WellFramed (rec 0) (rtpPayloads 4 sender (sendManagerTcp sender rec filesize).2) ∧
        ∀ buffer ∈ buffersSent sender (sendManagerTcp sender rec filesize).2,
          timestampOf 4 buffer = sender.rtpPacket.rtpHeader.timestamp.toNat) ∧
      WellFramed (rec 0) (rtpPayloads 0 sender (sendManager sender rec filesize).2) ∧
        ∀ buffer ∈ buffersSent sender (sendManager sender rec filesize).2,
          timestampOf 0 buffer = sender.rtpPacket.rtpHeader.timestamp.toNat := by
  have framed := nalPayloads_wellFramed rec long
  refine ⟨⟨?_, ?_⟩, ?_, ?_⟩
  · rw [rtpPayloads_sendManagerTcp sender reliable]
    exact framed
  · exact (sendManagerTcp_clocked sender (rec, filesize) reliable).times
  · rw [rtpPayloads_sendManager sender reliable]
    exact framed
  · exact (sendManager_clocked sender (rec, filesize) reliable).times

/-- A multiple of the packet size leaves no remainder. -/
theorem fragments_wellFramed_whole :
    (WellFramed 0x65
        (rtpPayloads 4 wholeSender (sendManagerTcp wholeSender (fun _ => 0x65) 2800).2) ∧
        ∀ buffer ∈ buffersSent wholeSender (sendManagerTcp wholeSender (fun _ => 0x65) 2800).2,
          timestampOf 4 buffer = 0) ∧
      WellFramed 0x65 (rtpPayloads 0 wholeSender (sendManager wholeSender (fun _ => 0x65) 2800).2) ∧
        ∀ buffer ∈ buffersSent wholeSender (sendManager wholeSender (fun _ => 0x65) 2800).2,
          timestampOf 0 buffer = 0 :=
  fragments_wellFramed wholeSender wholeSender_delivers.reliable (fun _ => 0x65) 2800 (by decide)

end FzServer.Packetisation
