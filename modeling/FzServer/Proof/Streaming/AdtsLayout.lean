import FzServer.Construction.Container.AdtsHeader
import FzServer.Foundation.ByteOrder

/-
This file lays out the 56 bits of an ADTS header and reads its length back.
-/

namespace FzServer.Streaming

open Foundation Aac

/-- The fields stand in the order of the bit stream. -/
structure AdtsFields where
  syncword : BitVec 12
  id : BitVec 1
  layer : BitVec 2
  protectionAbsent : BitVec 1
  profile : BitVec 2
  samplingFreqIndex : BitVec 4
  privateBit : BitVec 1
  channelCfg : BitVec 3
  originalCopy : BitVec 1
  home : BitVec 1
  copyrightIdentificationBit : BitVec 1
  copyrightIdentificationStart : BitVec 1
  aacFrameLength : BitVec 13
  adtsBufferFullness : BitVec 11
  numberOfRawDataBlockInFrame : BitVec 2

namespace AdtsFields

variable (fields : AdtsFields)

/-- These bits come before the frame length. -/
def front : BitVec 30 :=
  fields.syncword ++ fields.id ++ fields.layer ++ fields.protectionAbsent ++ fields.profile ++
    fields.samplingFreqIndex ++ fields.privateBit ++ fields.channelCfg ++ fields.originalCopy ++
    fields.home ++ fields.copyrightIdentificationBit ++ fields.copyrightIdentificationStart

def header : BitVec 56 :=
  fields.front ++ fields.aacFrameLength ++ fields.adtsBufferFullness ++
    fields.numberOfRawDataBlockInFrame

/-- The most significant byte comes first. -/
def bytes : List UInt8 :=
  (List.range 7).map fun index => UInt8.ofBitVec (byteOf fields.header (6 - index))

@[simp] theorem bytes_length : fields.bytes.length = 7 := rfl

end AdtsFields

/-- The front of a header is its sync word, four bits of the second byte, and the rest. -/
theorem front_toNat (fields : AdtsFields) :
    ∃ middle < 8, ∃ rest < 16384, fields.front.toNat =
      fields.syncword.toNat * 262144 + middle * 32768 + fields.protectionAbsent.toNat * 16384 + rest := by
  refine ⟨(fields.id ++ fields.layer).toNat, (fields.id ++ fields.layer).isLt,
    (fields.profile ++ fields.samplingFreqIndex ++ fields.privateBit ++ fields.channelCfg ++
      fields.originalCopy ++ fields.home ++ fields.copyrightIdentificationBit ++
      fields.copyrightIdentificationStart).toNat, BitVec.isLt _, ?_⟩
  simp only [AdtsFields.front, append_toNat, Nat.shiftLeft_eq]
  omega

/-- Each byte of the header is a digit of its value. -/
theorem headerByte_toNat (fields : AdtsFields) (index : Nat) :
    (UInt8.ofBitVec (byteOf fields.header index)).toNat =
      fields.header.toNat >>> (8 * index) % 256 := by
  change (byteOf fields.header index).toNat = _
  rw [byteOf, BitVec.extractLsb'_toNat]

/-- Exactly the bytes with a high nibble of ones pass the second test of the parser. -/
theorem syncNibble (byte : UInt8) : byte &&& 0xF0 = 0xF0 ↔ byte.toNat / 16 = 15 :=
  byte_forall (fun byte => byte &&& 0xF0 = 0xF0 ↔ byte.toNat / 16 = 15) (by decide +kernel) byte

/-- The parser reads the CRC flag and the frame length of every header with its sync word. -/
theorem parseAdtsHeader_layout (fields : AdtsFields) (sync : fields.syncword = 0xFFF)
    (in_ : Memory UInt8)
    (stands : ∀ index (inside : index < fields.bytes.length), in_ index = fields.bytes[index]) :
    (parseAdtsHeader in_).1 = 0 ∧
      (parseAdtsHeader in_).2.protectionAbsent.toNat = fields.protectionAbsent.toNat ∧
      (parseAdtsHeader in_).2.aacFrameLength.toNat = fields.aacFrameLength.toNat := by
  have cell (index : Nat) (inside : index < 7) :
      (in_ index).toNat = fields.header.toNat / 2 ^ (8 * (6 - index)) % 256 := by
    rw [stands index inside, ← Nat.shiftRight_eq_div_pow, ← headerByte_toNat]
    simp [AdtsFields.bytes]
  obtain ⟨middle, small, rest, inside, front⟩ := front_toNat fields
  have whole : fields.header.toNat = fields.front.toNat * 67108864 +
      fields.aacFrameLength.toNat * 8192 + fields.adtsBufferFullness.toNat * 4 +
      fields.numberOfRawDataBlockInFrame.toNat := by
    simp only [AdtsFields.header, append_toNat, Nat.shiftLeft_eq]
    omega
  have flag := fields.protectionAbsent.isLt
  have length := fields.aacFrameLength.isLt
  have fullness := fields.adtsBufferFullness.isLt
  have blocks := fields.numberOfRawDataBlockInFrame.isLt
  have ones : fields.syncword.toNat = 4095 := by
    rw [sync]
    rfl
  rw [ones] at front
  have cell0 := cell 0 (by decide)
  have cell1 := cell 1 (by decide)
  have cell3 := cell 3 (by decide)
  have cell4 := cell 4 (by decide)
  have cell5 := cell 5 (by decide)
  have first : in_ 0 = 0xFF := by
    rw [← UInt8.toNat_inj, cell0]
    change fields.header.toNat / 2 ^ 48 % 256 = 255
    omega
  have second : in_ 1 &&& 0xF0 = 0xF0 := by
    rw [syncNibble, cell1]
    change fields.header.toNat / 2 ^ 40 % 256 / 16 = 15
    omega
  obtain ⟨accepted, absent, size⟩ := parseAdtsHeader_accepted ⟨first, second⟩
  refine ⟨accepted, ?_, ?_⟩
  · rw [absent, UInt8.toNat_and]
    change (in_ 1).toNat &&& 2 ^ 1 - 1 = _
    rw [Nat.and_two_pow_sub_one_eq_mod, cell1]
    change fields.header.toNat / 2 ^ 40 % 256 % 2 = _
    omega
  · rw [size, frameLength_toNat, cell3, cell4, cell5]
    change 2048 * (fields.header.toNat / 2 ^ 24 % 256 % 4) +
      8 * (fields.header.toNat / 2 ^ 16 % 256) + fields.header.toNat / 2 ^ 8 % 256 / 32 = _
    omega

end FzServer.Streaming
