import FzServer.Proof.Packetisation.SendStream
import FzServer.Proof.Packetisation.Timestamps
import FzServer.Proof.Packetisation.WireFormat

/-
This file gives the RTP header of each packet that arrives on a track.
-/

namespace FzServer.Packetisation

open Foundation Rtp H264 Aac

/-- This header follows after a count of packets and a count of clock ticks. -/
def stamp (header : RtpHeader) (count ticks : Nat) : RtpHeader :=
  { header with
    seq := header.seq + UInt16.ofNat count
    timestamp := header.timestamp + UInt32.ofNat ticks }

section Stamp

variable (header : RtpHeader) (count ticks more : Nat)

@[simp] theorem stamp_zero : stamp header 0 0 = header := by
  simp [stamp]

theorem stamp_next : (stamp header count ticks).next = stamp header (count + 1) ticks := by
  rw [stamp, stamp, RtpHeader.next, UInt16.ofNat_add]
  simp [UInt16.add_assoc]

theorem stamp_after :
    (stamp header count ticks).after (UInt32.ofNat more) = stamp header count (ticks + more) := by
  rw [stamp, stamp, RtpHeader.after, UInt32.ofNat_add]
  simp [UInt32.add_assoc]

theorem stamp_skip : (stamp header count ticks).skip more = stamp header (count + more) ticks := by
  induction more generalizing count with
  | zero => rfl
  | succ more ih =>
      rw [RtpHeader.skip, stamp_next, ih, Nat.add_assoc, Nat.add_comm 1]

end Stamp

section Packets

variable (header : RtpHeader)

/-- The packets of one unit have consecutive numbers and one time. -/
theorem wirePackets_stamps (payloads : List (List UInt8)) (count ticks index : Nat) :
    (wirePackets (stamp header count ticks) payloads)[index]? =
      payloads[index]?.map (wirePacket (stamp header (count + index) ticks)) := by
  induction payloads generalizing count index with
  | nil => rfl
  | cons payload payloads ih =>
      rw [wirePackets, stamp_next]
      cases index with
      | zero => rfl
      | succ index =>
          rw [List.getElem?_cons_succ, List.getElem?_cons_succ, ih, Nat.add_assoc, Nat.add_comm 1]

theorem wirePackets_length (payloads : List (List UInt8)) :
    (wirePackets header payloads).length = payloads.length := by
  have same := congrArg List.length (wirePackets_payloads header payloads)
  rwa [List.length_map] at same

/-- The packets of the audio track have consecutive numbers, and the clock moves with each. -/
theorem framePackets_stamps (payloads : List (List UInt8)) (count ticks index : Nat) :
    (framePackets (stamp header count ticks) payloads)[index]? =
      payloads[index]?.map (wirePacket (stamp header (count + index) (ticks + 1025 * index))) := by
  induction payloads generalizing count ticks index with
  | nil => rfl
  | cons payload payloads ih =>
      have next : (stamp header count ticks).next.after 1025 =
          stamp header (count + 1) (ticks + 1025) := by
        rw [stamp_next]
        exact stamp_after header _ _ 1025
      rw [framePackets, next]
      cases index with
      | zero => rfl
      | succ index =>
          rw [List.getElem?_cons_succ, List.getElem?_cons_succ, ih, Nat.mul_succ, Nat.add_assoc,
            Nat.add_comm 1, Nat.add_assoc, Nat.add_comm 1025]

/-- The clock moves at most once for each packet, and never back. -/
structure Pictures (pictures : Nat → Nat) : Prop where
  first : pictures 0 = 0
  grows : ∀ index, pictures index ≤ pictures (index + 1)
  slow : ∀ index, pictures (index + 1) ≤ pictures index + 1

/-- The unit of this many packets comes first, and its clock moves behind its last packet. -/
def picturesBehind (packets moves : Nat) (pictures : Nat → Nat) (index : Nat) : Nat :=
  if index < packets then 0 else moves + pictures (index - packets)

theorem Pictures.behind {packets moves : Nat} {pictures : Nat → Nat} (later : Pictures pictures)
    (positive : 0 < packets) (once : moves ≤ 1) :
    Pictures (picturesBehind packets moves pictures) where
  first := if_pos positive
  grows index := by
    rw [picturesBehind, picturesBehind]
    split_ifs with now next
    · exact Nat.le_refl 0
    · exact Nat.zero_le _
    · omega
    · rw [Nat.succ_sub (Nat.not_lt.mp now)]
      exact Nat.add_le_add_left (later.grows _) _
  slow index := by
    rw [picturesBehind, picturesBehind]
    split_ifs with next now
    · exact Nat.zero_le _
    · exact Nat.zero_le _
    · have last : index + 1 - packets = 0 := by omega
      rw [last, later.first]
      omega
    · rw [Nat.succ_sub (Nat.not_lt.mp (by assumption))]
      exact Nat.add_le_add_left (later.slow _) _

/-- A unit moves the clock by a picture or not at all. -/
theorem nalTicks_cases (rec : Memory UInt8) (filesize : Nat) :
    ∃ moves ≤ 1, nalTicks rec filesize = UInt32.ofNat (3000 * moves) := by
  rw [nalTicks]
  split_ifs
  · exact ⟨0, Nat.zero_le 1, rfl⟩
  · exact ⟨1, Nat.le_refl 1, rfl⟩

/-- The packets of the video track have consecutive numbers, and the clock counts pictures. -/
theorem unitPackets_stamps (units : List (Memory UInt8 × Nat)) (count ticks : Nat) :
    ∃ pictures, Pictures pictures ∧ ∀ index, ∀ packet ∈
      (unitPackets (stamp header count ticks) units)[index]?, ∃ payload,
        packet =
          wirePacket (stamp header (count + index) (ticks + 3000 * pictures index)) payload := by
  induction units generalizing count ticks with
  | nil =>
      refine ⟨fun _ => 0, ⟨rfl, fun _ => Nat.le_refl 0, fun _ => Nat.zero_le _⟩, ?_⟩
      intro index packet member
      nomatch member
  | cons unit units ih =>
      obtain ⟨moves, once, clock⟩ := nalTicks_cases unit.1 unit.2
      have size := wirePackets_length (stamp header count ticks) (nalPayloads unit.1 unit.2)
      have filled := List.length_pos_iff.mpr (nalPayloads_ne_nil unit.1 unit.2)
      have moved : afterUnit (stamp header count ticks) unit =
          stamp header (count + (nalPayloads unit.1 unit.2).length) (ticks + 3000 * moves) := by
        rw [afterUnit, stamp_skip, clock, stamp_after]
      obtain ⟨pictures, counts, rest⟩ := ih (count + (nalPayloads unit.1 unit.2).length)
        (ticks + 3000 * moves)
      refine ⟨picturesBehind (nalPayloads unit.1 unit.2).length moves pictures,
        counts.behind filled once, ?_⟩
      intro index packet member
      rw [unitPackets, moved] at member
      rw [picturesBehind]
      split_ifs with inside
      · rw [List.getElem?_append_left (by omega), wirePackets_stamps] at member
        obtain ⟨payload, _, rfl⟩ := Option.map_eq_some_iff.mp member
        exact ⟨payload, rfl⟩
      · rw [List.getElem?_append_right (by omega), size] at member
        obtain ⟨payload, rfl⟩ := rest _ packet member
        refine ⟨payload, ?_⟩
        rw [Nat.add_assoc, Nat.add_sub_cancel' (Nat.not_lt.mp inside), Nat.add_assoc ticks,
          ← Nat.mul_add]

end Packets

end FzServer.Packetisation
