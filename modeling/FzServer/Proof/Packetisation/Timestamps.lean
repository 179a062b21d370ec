import FzServer.Proof.Packetisation.Demultiplex

/-
This file reads the clock off the packets of each NAL unit.
-/

namespace FzServer.Packetisation

open Foundation Rtp H264 Aac

/-- Four bytes of an RTP packet hold its timestamp in network order. -/
def timestampOf (prefixSize : Nat) (buffer : List UInt8) : Nat :=
  16777216 * (buffer.getD (prefixSize + 4) 0).toNat + 65536 * (buffer.getD (prefixSize + 5) 0).toNat +
    256 * (buffer.getD (prefixSize + 6) 0).toNat + (buffer.getD (prefixSize + 7) 0).toNat

abbrev NalUnit : Type := Memory UInt8 × Nat

/-- A unit of this type ends one thirtieth of a second. -/
def advancesByType (unit : NalUnit) : Bool := !keepsTimestamp (unit.1 0)

/-- A parameter set or SEI of more than one packet moves the clock all the same. -/
def advancesBySize (unit : NalUnit) : Bool :=
  keepsTimestamp (unit.1 0) && RTP_MAX_PKT_SIZE < unit.2

/-- The packets of each unit carry the time that the types of the earlier units give. -/
def TimedByType (prefixSize : Nat) (send : Sender → Memory UInt8 → Nat → Int × Sender)
    (sender : Sender) (units : List NalUnit) : Prop :=
  ∀ index < units.length,
    ∀ buffer ∈ buffersSent (sendUnitsOver send sender (units.take index))
        (sendUnitsOver send sender (units.take (index + 1))),
      timestampOf prefixSize buffer =
        (sender.rtpPacket.rtpHeader.timestamp.toNat +
          3000 * (units.take index).countP advancesByType) % 4294967296

/-- A clock that has moved on shows its old time exactly after whole rounds. -/
theorem clock_stands_iff (time moved : Nat) :
    (time + moved) % 4294967296 = time % 4294967296 ↔ moved % 4294967296 = 0 := by
  omega

/-- The receiver reads the time of the header off the wire. -/
theorem timestampOf_frame {frame : List UInt8 → List UInt8} {prefixSize : Nat}
    (strip : ∀ packet, (frame packet).drop prefixSize = packet) (header : RtpHeader)
    (payload : List UInt8) :
    timestampOf prefixSize (frame (wirePacket header payload)) = header.timestamp.toNat := by
  obtain ⟨first, second, third, fourth⟩ := byteOf_reverse32 header.timestamp.toBitVec
  have cell (index : Nat) : (frame (wirePacket header payload)).getD (prefixSize + index) 0 =
      (wirePacket header payload).getD index 0 := by
    rw [List.getD_eq_getElem?_getD, List.getD_eq_getElem?_getD, ← List.getElem?_drop, strip]
  rw [timestampOf, cell, cell, cell, cell]
  change 16777216 * (byteOf (reverse32 header.timestamp.toBitVec) 0).toNat +
    65536 * (byteOf (reverse32 header.timestamp.toBitVec) 1).toNat +
    256 * (byteOf (reverse32 header.timestamp.toBitVec) 2).toNat +
    (byteOf (reverse32 header.timestamp.toBitVec) 3).toNat = _
  rw [first, second, third, fourth]
  exact byteOf_toNat_32 header.timestamp.toBitVec

@[simp] theorem skip_timestamp (header : RtpHeader) (count : Nat) :
    (header.skip count).timestamp = header.timestamp := by
  induction count generalizing header with
  | zero => rfl
  | succ count ih => exact ih header.next

/-- Consecutive packets share one time. -/
theorem timestampOf_wirePackets {frame : List UInt8 → List UInt8} {prefixSize : Nat}
    (strip : ∀ packet, (frame packet).drop prefixSize = packet) (header : RtpHeader)
    (payloads : List (List UInt8)) :
    ∀ buffer ∈ (wirePackets header payloads).map frame,
      timestampOf prefixSize buffer = header.timestamp.toNat := by
  induction payloads generalizing header with
  | nil => simp [wirePackets]
  | cons payload payloads ih =>
      intro buffer member
      rcases List.mem_cons.mp member with rfl | member
      · exact timestampOf_frame strip header payload
      · exact ih header.next buffer member

/-- Every unit leaves in at least one packet. -/
theorem nalPayloads_ne_nil (rec : Memory UInt8) (filesize : Nat) : nalPayloads rec filesize ≠ [] := by
  rw [nalPayloads]
  split_ifs with single
  · exact List.cons_ne_nil _ _
  · have full : 0 < filesize / RTP_MAX_PKT_SIZE :=
      Nat.div_pos (Nat.le_of_lt (Nat.not_le.mp single)) (by decide)
    intro none
    have lengths := congrArg List.length none
    simp only [splitPayloads, List.length_append, List.length_map, List.length_range',
      List.length_nil] at lengths
    omega

/-- No unit moves the clock both by type and by size. -/
theorem countP_advances (units : List NalUnit) :
    units.countP (fun unit => advancesByType unit || advancesBySize unit) =
      units.countP advancesByType + units.countP advancesBySize := by
  induction units with
  | nil => rfl
  | cons unit units ih =>
      rw [List.countP_cons, List.countP_cons, List.countP_cons, ih]
      cases keeps : keepsTimestamp (unit.1 0) with
      | true =>
          simp only [advancesByType, advancesBySize, keeps, Bool.not_true, Bool.false_or,
            Bool.true_and, Bool.false_eq_true, if_false]
          omega
      | false =>
          simp only [advancesByType, advancesBySize, keeps, Bool.not_false, Bool.true_or,
            Bool.false_and, Bool.false_eq_true, if_false]
          omega

/-- This is what one reliable call does with its unit and with the clock. -/
structure Clocked (prefixSize : Nat) (unit : NalUnit) (before : Sender) (result : Int × Sender) :
    Prop where
  succeeds : result.1 ≠ -1
  reliable : result.2.socket.Reliable
  sends : buffersSent before result.2 ≠ []
  times : ∀ buffer ∈ buffersSent before result.2,
    timestampOf prefixSize buffer = before.rtpPacket.rtpHeader.timestamp.toNat
  clock : result.2.rtpPacket.rtpHeader.timestamp.toNat =
    (before.rtpPacket.rtpHeader.timestamp.toNat +
      3000 * if advancesByType unit || advancesBySize unit then 1 else 0) % 4294967296

/-- One unit leaves with one time, and then the clock moves by type or by size. -/
theorem sendManagerWith_clocked {frame : List UInt8 → List UInt8} {prefixSize : Nat}
    (strip : ∀ packet, (frame packet).drop prefixSize = packet) {sender : Sender}
    (reliable : sender.socket.Reliable) (unit : NalUnit) :
    Clocked prefixSize unit sender (sendManagerWith (transmit frame) sender unit.1 unit.2) := by
  obtain ⟨positive, middle, sends, result⟩ := sendManagerWith_sends frame reliable unit.1 unit.2
  let after := middle.withHeader (middle.rtpPacket.rtpHeader.after (nalTicks unit.1 unit.2))
  have buffers : buffersSent sender after =
      (wirePackets sender.rtpPacket.rtpHeader (nalPayloads unit.1 unit.2)).map frame := by
    change middle.socket.sent.drop sender.socket.sent.length = _
    rw [sends.sent, List.drop_left]
  have clock : nalTicks unit.1 unit.2 =
      if advancesByType unit || advancesBySize unit then 3000 else 0 := by
    rw [nalTicks, advancesByType, advancesBySize]
    by_cases single : unit.2 ≤ RTP_MAX_PKT_SIZE
    · cases keepsTimestamp (unit.1 0) <;> simp [single, Nat.not_lt.mpr single]
    · cases keepsTimestamp (unit.1 0) <;> simp [single, Nat.not_le.mp single]
  have time : after.rtpPacket.rtpHeader.timestamp =
      sender.rtpPacket.rtpHeader.timestamp + nalTicks unit.1 unit.2 := by
    change middle.rtpPacket.rtpHeader.timestamp + nalTicks unit.1 unit.2 = _
    rw [sends.header, skip_timestamp]
  refine ⟨by omega, ?_, ?_, ?_, ?_⟩
  · rw [result]
    exact sends.reliable reliable
  · rw [result, buffers]
    have nonempty := nalPayloads_ne_nil unit.1 unit.2
    cases payloads : nalPayloads unit.1 unit.2 with
    | nil => exact absurd payloads nonempty
    | cons payload rest => exact List.cons_ne_nil _ _
  · rw [result, buffers]
    exact timestampOf_wirePackets strip _ _
  · rw [result, time, clock, UInt32.toNat_add]
    split_ifs <;> rfl

section Loop

variable {send : Sender → Memory UInt8 → Nat → Int × Sender} {prefixSize : Nat}
  (each : ∀ sender unit, sender.socket.Reliable →
    Clocked prefixSize unit sender (send sender unit.1 unit.2))

include each

/-- The loop over a longer list makes one more call. -/
theorem sendUnitsOver_concat (units : List NalUnit) (unit : NalUnit) (sender : Sender)
    (reliable : sender.socket.Reliable) :
    (sendUnitsOver send sender units).socket.Reliable ∧
      sendUnitsOver send sender (units ++ [unit]) =
        (send (sendUnitsOver send sender units) unit.1 unit.2).2 := by
  induction units generalizing sender with
  | nil =>
      refine ⟨reliable, ?_⟩
      rw [List.nil_append, sendUnitsOver]
      exact if_neg (each sender unit reliable).succeeds
  | cons first units ih =>
      have one := each sender first reliable
      rw [List.cons_append, sendUnitsOver, sendUnitsOver, if_neg one.succeeds, if_neg one.succeeds]
      exact ih _ one.reliable

/-- The clock counts the units that move it by type or by size. -/
theorem sendUnitsOver_clock (units : List NalUnit) (sender : Sender)
    (reliable : sender.socket.Reliable) :
    (sendUnitsOver send sender units).rtpPacket.rtpHeader.timestamp.toNat =
      (sender.rtpPacket.rtpHeader.timestamp.toNat + 3000 * units.countP fun unit =>
        advancesByType unit || advancesBySize unit) % 4294967296 := by
  induction units using List.reverseRecOn with
  | nil => exact (Nat.mod_eq_of_lt sender.rtpPacket.rtpHeader.timestamp.toNat_lt).symm
  | append_singleton units unit ih =>
      obtain ⟨stays, last⟩ := sendUnitsOver_concat each units unit sender reliable
      rw [last, (each _ unit stays).clock, ih, List.countP_append, List.countP_singleton]
      omega

/-- The packets of each unit show the clock that the earlier units left. -/
theorem timedByType_iff_counts (units : List NalUnit) (sender : Sender)
    (reliable : sender.socket.Reliable) :
    TimedByType prefixSize send sender units ↔
      ∀ index < units.length, 3000 * (units.take index).countP advancesBySize % 4294967296 = 0 := by
  refine forall₂_congr fun index inside => ?_
  obtain ⟨stays, last⟩ :=
    sendUnitsOver_concat each (units.take index) units[index] sender reliable
  rw [List.take_append_getElem inside] at last
  obtain ⟨_, _, sends, times, _⟩ := each _ units[index] stays
  rw [last]
  have clock := sendUnitsOver_clock each (units.take index) sender reliable
  rw [countP_advances, Nat.mul_add, ← Nat.add_assoc] at clock
  constructor
  · intro timed
    obtain ⟨buffer, member⟩ := List.exists_mem_of_ne_nil _ sends
    have shown := timed buffer member
    rw [times buffer member, clock] at shown
    exact (clock_stands_iff _ _).mp shown
  · intro counted buffer member
    rw [times buffer member, clock]
    exact (clock_stands_iff _ _).mpr counted

/-- The times are right exactly when no unit before the last moves the clock by its size. -/
theorem timedByType_iff (units : List NalUnit) (sender : Sender)
    (reliable : sender.socket.Reliable) :
    TimedByType prefixSize send sender units ↔
      ∀ unit ∈ units.dropLast, keepsTimestamp (unit.1 0) = true → unit.2 ≤ RTP_MAX_PKT_SIZE := by
  rw [timedByType_iff_counts each units sender reliable]
  have quiet (unit : NalUnit) : ¬advancesBySize unit = true ↔
      (keepsTimestamp (unit.1 0) = true → unit.2 ≤ RTP_MAX_PKT_SIZE) := by
    rw [advancesBySize, Bool.and_eq_true, decide_eq_true_iff, not_and, Nat.not_lt]
  simp only [← quiet]
  rw [List.dropLast_eq_take, ← List.countP_eq_zero]
  constructor
  · intro counts
    -- The count grows by one at most, and 3000 does not vanish.
    have none (index : Nat) (inside : index < units.length) :
        (units.take index).countP advancesBySize = 0 := by
      induction index with
      | zero => rfl
      | succ index ih =>
          have last := counts (index + 1) inside
          rw [← List.take_append_getElem (Nat.lt_of_succ_lt inside), List.countP_append,
            ih (Nat.lt_of_succ_lt inside), List.countP_singleton] at last ⊢
          split_ifs at last ⊢ with moves
          omega
    cases units with
    | nil => rfl
    | cons unit units => exact none _ (by simp)
  · intro none index inside
    have below : (units.take index).countP advancesBySize ≤
        (units.take (units.length - 1)).countP advancesBySize := by
      apply List.Sublist.countP_le
      exact (List.take_prefix_take_left (by omega)).sublist
    rw [none] at below
    rw [Nat.le_zero.mp below]

end Loop

theorem sendManagerTcp_clocked (sender : Sender) (unit : NalUnit)
    (reliable : sender.socket.Reliable) :
    Clocked 4 unit sender (sendManagerTcp sender unit.1 unit.2) :=
  sendManagerWith_clocked (tcpFrame_drop 0x00) reliable unit

theorem sendManager_clocked (sender : Sender) (unit : NalUnit)
    (reliable : sender.socket.Reliable) :
    Clocked 0 unit sender (sendManager sender unit.1 unit.2) :=
  sendManagerWith_clocked (fun _ => rfl) reliable unit

/-- Both transports time the packets by type exactly for these lists of units. -/
theorem timestamps_by_type_iff (sender : Sender) (reliable : sender.socket.Reliable)
    (units : List NalUnit) :
    (TimedByType 4 sendManagerTcp sender units ↔
        ∀ unit ∈ units.dropLast, keepsTimestamp (unit.1 0) = true → unit.2 ≤ RTP_MAX_PKT_SIZE) ∧
      (TimedByType 0 sendManager sender units ↔
        ∀ unit ∈ units.dropLast, keepsTimestamp (unit.1 0) = true → unit.2 ≤ RTP_MAX_PKT_SIZE) :=
  ⟨timedByType_iff sendManagerTcp_clocked units sender reliable,
    timedByType_iff sendManager_clocked units sender reliable⟩

/-- A short parameter set before a picture keeps the time. -/
theorem timestamps_by_type_iff_short :
    (TimedByType 4 sendManagerTcp wholeSender [(fun _ => 0x67, 3), (fun _ => 0x65, 3)] ↔
        ∀ unit ∈ ([(fun _ => 0x67, 3)] : List NalUnit),
          keepsTimestamp (unit.1 0) = true → unit.2 ≤ RTP_MAX_PKT_SIZE) ∧
      (TimedByType 0 sendManager wholeSender [(fun _ => 0x67, 3), (fun _ => 0x65, 3)] ↔
        ∀ unit ∈ ([(fun _ => 0x67, 3)] : List NalUnit),
          keepsTimestamp (unit.1 0) = true → unit.2 ≤ RTP_MAX_PKT_SIZE) :=
  timestamps_by_type_iff wholeSender wholeSender_delivers.reliable
    [(fun _ => 0x67, 3), (fun _ => 0x65, 3)]

/-- A parameter set of 1401 bytes makes the next picture late. -/
theorem timestamps_by_type_fails :
    ¬TimedByType 4 sendManagerTcp wholeSender [(fun _ => 0x67, 1401), (fun _ => 0x65, 3)] ∧
      ¬TimedByType 0 sendManager wholeSender [(fun _ => 0x67, 1401), (fun _ => 0x65, 3)] := by
  rw [timedByType_iff sendManagerTcp_clocked _ _ wholeSender_delivers.reliable,
    timedByType_iff sendManager_clocked _ _ wholeSender_delivers.reliable]
  have long : ¬∀ unit ∈ ([(fun _ => 0x67, 1401)] : List NalUnit),
      keepsTimestamp (unit.1 0) = true → unit.2 ≤ RTP_MAX_PKT_SIZE := by
    intro all
    exact absurd (all _ List.mem_cons_self rfl) (by decide)
  exact ⟨long, long⟩

end FzServer.Packetisation
