import FzServer.Proof.Streaming.AudioFile
import Mathlib.Tactic.IntervalCases

/-
This file compares the fields of a parsed ADTS header with the encoded ones.
-/

namespace FzServer.Streaming

open Foundation Aac

/-- A mask and a shift take these bits out of a byte. -/
theorem masked_toNat (byte : UInt8) {shift width : Nat} (fits : shift + width ≤ 8)
    (nonempty : 0 < width) :
    ((byte &&& UInt8.ofNat ((2 ^ width - 1) <<< shift)) >>> UInt8.ofNat shift).toNat =
      byte.toNat / 2 ^ shift % 2 ^ width := by
  have mask : (2 ^ width - 1) <<< shift < 2 ^ 8 := by
    rw [Nat.shiftLeft_eq]
    calc (2 ^ width - 1) * 2 ^ shift
        < 2 ^ width * 2 ^ shift :=
          Nat.mul_lt_mul_of_pos_right (Nat.sub_lt (Nat.two_pow_pos _) (by decide))
            (Nat.two_pow_pos _)
      _ = 2 ^ (shift + width) := by rw [← Nat.pow_add, Nat.add_comm]
      _ ≤ 2 ^ 8 := Nat.pow_le_pow_right (by decide) fits
  rw [UInt8.toNat_shiftRight, UInt8.toNat_and, UInt8.toNat_ofNat', UInt8.toNat_ofNat',
    Nat.mod_eq_of_lt mask, Nat.mod_eq_of_lt (show shift < 2 ^ 8 by omega),
    Nat.mod_eq_of_lt (show shift < 8 by omega), Nat.shiftRight_and_distrib,
    Nat.shiftLeft_shiftRight, Nat.and_two_pow_sub_one_eq_mod, Nat.shiftRight_eq_div_pow]

theorem masked_eq {byte : UInt8} {value : Nat} (shift width : Nat) (fits : shift + width ≤ 8)
    (nonempty : 0 < width) (taken : byte.toNat / 2 ^ shift % 2 ^ width = value) :
    (byte &&& UInt8.ofNat ((2 ^ width - 1) <<< shift)) >>> UInt8.ofNat shift =
      UInt8.ofNat value := by
  have small : value < 2 ^ 8 := by
    rw [← taken]
    exact (Nat.mod_lt _ (Nat.two_pow_pos _)).trans_le (Nat.pow_le_pow_right (by decide) (by omega))
  rw [← UInt8.toNat_inj, masked_toNat byte fits nonempty, taken, UInt8.toNat_ofNat',
    Nat.mod_eq_of_lt small]

theorem remainder_eq {byte : UInt8} {value : Nat} (width : Nat) (fits : width ≤ 8)
    (taken : byte.toNat % 2 ^ width = value) :
    byte &&& UInt8.ofNat (2 ^ width - 1) = UInt8.ofNat value := by
  have mask : 2 ^ width - 1 < 2 ^ 8 :=
    Nat.sub_one_lt_of_le (Nat.two_pow_pos _) (Nat.pow_le_pow_right (by decide) fits)
  have small : value < 2 ^ 8 := by
    rw [← taken]
    exact (Nat.mod_lt _ (Nat.two_pow_pos _)).trans_le (Nat.pow_le_pow_right (by decide) fits)
  rw [← UInt8.toNat_inj, UInt8.toNat_and, UInt8.toNat_ofNat', UInt8.toNat_ofNat',
    Nat.mod_eq_of_lt mask, Nat.mod_eq_of_lt small, Nat.and_two_pow_sub_one_eq_mod, taken]

/-- The buffer fullness lies in two bytes. -/
theorem fullness_toNat (high low : UInt8) :
    (((high.toUInt32 &&& 0x1F) <<< 6) ||| ((low.toUInt32 &&& 0xFC) >>> 2)).toNat =
      64 * (high.toNat % 32) + low.toNat / 4 := by
  have upper : (high.toUInt32 &&& 0x1F).toNat = high.toNat % 32 := by
    rw [UInt32.toNat_and, UInt8.toNat_toUInt32]
    exact Nat.and_two_pow_sub_one_eq_mod _ 5
  have lower : ((low.toUInt32 &&& 0xFC) >>> 2).toNat = low.toNat / 4 := by
    have byte := low.toNat_lt
    rw [UInt32.toNat_shiftRight, UInt32.toNat_and, UInt8.toNat_toUInt32]
    change (low.toNat &&& 0xFC) >>> 2 = low.toNat / 4
    rw [Nat.shiftRight_and_distrib, Nat.shiftRight_eq_div_pow]
    change low.toNat / 4 &&& 2 ^ 6 - 1 = low.toNat / 4
    rw [Nat.and_two_pow_sub_one_eq_mod, Nat.mod_eq_of_lt (by omega)]
  have byte := low.toNat_lt
  rw [UInt32.toNat_or, UInt32.toNat_shiftLeft, upper, lower]
  change (high.toNat % 32) <<< 6 % 4294967296 ||| low.toNat / 4 = _
  have fits : (high.toNat % 32) <<< 6 < 4294967296 := by
    rw [Nat.shiftLeft_eq]
    omega
  rw [Nat.mod_eq_of_lt fits, ← Nat.shiftLeft_add_eq_or_of_lt (by omega), Nat.shiftLeft_eq]
  omega

/-- The channels lie in the last bit of one byte and the first two of the next. -/
theorem channels_eq : ∀ value < 8,
    (UInt8.ofNat (value / 4) <<< 2) ||| UInt8.ofNat (value % 4) = UInt8.ofNat value := by
  decide

namespace AdtsFields

variable (fields : AdtsFields)

/-- The record holds every encoded value in the variable for it. -/
def toHeader : AdtsHeader where
  syncword := UInt32.ofNat fields.syncword.toNat
  id := UInt8.ofNat fields.id.toNat
  layer := UInt8.ofNat fields.layer.toNat
  protectionAbsent := UInt8.ofNat fields.protectionAbsent.toNat
  profile := UInt8.ofNat fields.profile.toNat
  samplingFreqIndex := UInt8.ofNat fields.samplingFreqIndex.toNat
  privateBit := UInt8.ofNat fields.privateBit.toNat
  channelCfg := UInt8.ofNat fields.channelCfg.toNat
  originalCopy := UInt8.ofNat fields.originalCopy.toNat
  home := UInt8.ofNat fields.home.toNat
  copyrightIdentificationBit := UInt8.ofNat fields.copyrightIdentificationBit.toNat
  copyrightIdentificationStart := UInt8.ofNat fields.copyrightIdentificationStart.toNat
  aacFrameLength := UInt32.ofNat fields.aacFrameLength.toNat
  adtsBufferFullness := UInt32.ofNat fields.adtsBufferFullness.toNat
  numberOfRawDataBlockInFrame := UInt8.ofNat fields.numberOfRawDataBlockInFrame.toNat

/-- The record leaves the sync word cleared. -/
def behindSync : AdtsHeader := { fields.toHeader with syncword := 0 }

/-- Each value has the width of its field. -/
theorem bounds : fields.syncword.toNat < 2 ^ 12 ∧ fields.id.toNat < 2 ^ 1 ∧
    fields.layer.toNat < 2 ^ 2 ∧ fields.protectionAbsent.toNat < 2 ^ 1 ∧
    fields.profile.toNat < 2 ^ 2 ∧ fields.samplingFreqIndex.toNat < 2 ^ 4 ∧
    fields.privateBit.toNat < 2 ^ 1 ∧ fields.channelCfg.toNat < 2 ^ 3 ∧
    fields.originalCopy.toNat < 2 ^ 1 ∧ fields.home.toNat < 2 ^ 1 ∧
    fields.copyrightIdentificationBit.toNat < 2 ^ 1 ∧
    fields.copyrightIdentificationStart.toNat < 2 ^ 1 ∧ fields.aacFrameLength.toNat < 2 ^ 13 ∧
    fields.adtsBufferFullness.toNat < 2 ^ 11 ∧ fields.numberOfRawDataBlockInFrame.toNat < 2 ^ 2 :=
  ⟨fields.syncword.isLt, fields.id.isLt, fields.layer.isLt, fields.protectionAbsent.isLt,
    fields.profile.isLt, fields.samplingFreqIndex.isLt, fields.privateBit.isLt,
    fields.channelCfg.isLt, fields.originalCopy.isLt, fields.home.isLt,
    fields.copyrightIdentificationBit.isLt, fields.copyrightIdentificationStart.isLt,
    fields.aacFrameLength.isLt, fields.adtsBufferFullness.isLt,
    fields.numberOfRawDataBlockInFrame.isLt⟩

/-- The header stands at the front of the memory. -/
def Stands (in_ : Memory UInt8) : Prop := window in_ 0 7 = fields.bytes

instance (in_ : Memory UInt8) : Decidable (fields.Stands in_) :=
  inferInstanceAs (Decidable (window in_ 0 7 = fields.bytes))

/-- The first bytes of the memory are these digits of the fields. -/
structure Digits (in_ : Memory UInt8) : Prop where
  byte0 : (in_ 0).toNat = fields.syncword.toNat / 16
  byte1 : (in_ 1).toNat = fields.syncword.toNat % 16 * 16 + fields.id.toNat * 8 +
    fields.layer.toNat * 2 + fields.protectionAbsent.toNat
  byte2 : (in_ 2).toNat = fields.profile.toNat * 64 + fields.samplingFreqIndex.toNat * 4 +
    fields.privateBit.toNat * 2 + fields.channelCfg.toNat / 4
  byte3 : (in_ 3).toNat = fields.channelCfg.toNat % 4 * 64 + fields.originalCopy.toNat * 32 +
    fields.home.toNat * 16 + fields.copyrightIdentificationBit.toNat * 8 +
    fields.copyrightIdentificationStart.toNat * 4 + fields.aacFrameLength.toNat / 2048
  byte4 : (in_ 4).toNat = fields.aacFrameLength.toNat / 8 % 256
  byte5 : (in_ 5).toNat =
    fields.aacFrameLength.toNat % 8 * 32 + fields.adtsBufferFullness.toNat / 64
  byte6 : (in_ 6).toNat = fields.adtsBufferFullness.toNat % 64 * 4 +
    fields.numberOfRawDataBlockInFrame.toNat

variable {fields}

/-- The digits of a number of seven bytes are its remainders. -/
theorem digits_unique {value digit0 digit1 digit2 digit3 digit4 digit5 digit6 : Nat}
    (sum : value = digit0 * 2 ^ 48 + digit1 * 2 ^ 40 + digit2 * 2 ^ 32 + digit3 * 2 ^ 24 +
      digit4 * 2 ^ 16 + digit5 * 2 ^ 8 + digit6)
    (small : digit0 < 256 ∧ digit1 < 256 ∧ digit2 < 256 ∧ digit3 < 256 ∧ digit4 < 256 ∧
      digit5 < 256 ∧ digit6 < 256) :
    value / 2 ^ 48 % 256 = digit0 ∧ value / 2 ^ 40 % 256 = digit1 ∧ value / 2 ^ 32 % 256 = digit2 ∧
      value / 2 ^ 24 % 256 = digit3 ∧ value / 2 ^ 16 % 256 = digit4 ∧
      value / 2 ^ 8 % 256 = digit5 ∧ value / 2 ^ 0 % 256 = digit6 := by
  omega

/-- A header stands in the memory exactly with its digits. -/
theorem stands_iff {in_ : Memory UInt8} : fields.Stands in_ ↔ fields.Digits in_ := by
  obtain ⟨syncword, id, layer, protectionAbsent, profile, samplingFreqIndex, privateBit, channelCfg,
    originalCopy, home, copyrightIdentificationBit, copyrightIdentificationStart, aacFrameLength,
    adtsBufferFullness, numberOfRawDataBlockInFrame⟩ := fields.bounds
  have whole : fields.header.toNat = fields.syncword.toNat / 16 * 2 ^ 48 +
      (fields.syncword.toNat % 16 * 16 + fields.id.toNat * 8 + fields.layer.toNat * 2 +
        fields.protectionAbsent.toNat) * 2 ^ 40 +
      (fields.profile.toNat * 64 + fields.samplingFreqIndex.toNat * 4 +
        fields.privateBit.toNat * 2 + fields.channelCfg.toNat / 4) * 2 ^ 32 +
      (fields.channelCfg.toNat % 4 * 64 + fields.originalCopy.toNat * 32 + fields.home.toNat * 16 +
        fields.copyrightIdentificationBit.toNat * 8 +
        fields.copyrightIdentificationStart.toNat * 4 +
        fields.aacFrameLength.toNat / 2048) * 2 ^ 24 +
      fields.aacFrameLength.toNat / 8 % 256 * 2 ^ 16 +
      (fields.aacFrameLength.toNat % 8 * 32 + fields.adtsBufferFullness.toNat / 64) * 2 ^ 8 +
      (fields.adtsBufferFullness.toNat % 64 * 4 + fields.numberOfRawDataBlockInFrame.toNat) := by
    simp only [AdtsFields.header, AdtsFields.front, append_toNat, Nat.shiftLeft_eq]
    omega
  obtain ⟨digit0, digit1, digit2, digit3, digit4, digit5, digit6⟩ := digits_unique whole
    ⟨by omega, by omega, by omega, by omega, by omega, by omega, by omega⟩
  have cells : fields.Stands in_ ↔ ∀ index < 7,
      (in_ index).toNat = fields.header.toNat / 2 ^ (8 * (6 - index)) % 256 := by
    simp only [Stands, window, bytes, List.map_inj_left, List.mem_range, Nat.zero_add,
      ← UInt8.toNat_inj, headerByte_toNat, Nat.shiftRight_eq_div_pow]
  rw [cells]
  constructor
  · intro cell
    constructor
    · exact (cell 0 (by decide)).trans digit0
    · exact (cell 1 (by decide)).trans digit1
    · exact (cell 2 (by decide)).trans digit2
    · exact (cell 3 (by decide)).trans digit3
    · exact (cell 4 (by decide)).trans digit4
    · exact (cell 5 (by decide)).trans digit5
    · exact (cell 6 (by decide)).trans digit6
  · rintro ⟨byte0, byte1, byte2, byte3, byte4, byte5, byte6⟩ index inside
    interval_cases index
    · exact byte0.trans digit0.symm
    · exact byte1.trans digit1.symm
    · exact byte2.trans digit2.symm
    · exact byte3.trans digit3.symm
    · exact byte4.trans digit4.symm
    · exact byte5.trans digit5.symm
    · exact byte6.trans digit6.symm

/-- Only the sync word and the start bit come back with other values. -/
theorem Stands.parsed {in_ : Memory UInt8} (stands : fields.Stands in_)
    (sync : fields.syncword = 0xFFF) :
    parseAdtsHeader in_ = (0, { fields.behindSync with
      copyrightIdentificationStart := UInt8.ofNat (fields.aacFrameLength.toNat / 2048 % 2) }) := by
  obtain ⟨byte0, byte1, byte2, byte3, byte4, byte5, byte6⟩ := stands_iff.mp stands
  have ones : fields.syncword.toNat = 4095 := congrArg BitVec.toNat sync
  obtain ⟨_, id, layer, protectionAbsent, profile, samplingFreqIndex, privateBit, channelCfg,
    originalCopy, home, copyrightIdentificationBit, copyrightIdentificationStart, aacFrameLength,
    adtsBufferFullness, numberOfRawDataBlockInFrame⟩ := fields.bounds
  have accepted : in_ 0 = 0xFF ∧ in_ 1 &&& 0xF0 = 0xF0 := by
    constructor
    · rw [← UInt8.toNat_inj, byte0, ones]
      rfl
    · rw [syncNibble]
      omega
  rw [parseAdtsHeader, if_pos accepted]
  simp only [emptyAdtsHeader, behindSync, toHeader, Prod.mk.injEq, AdtsHeader.mk.injEq, true_and]
  refine ⟨?_, ?_, ?_, ?_, ?_, ?_, ?_, ?_, ?_, ?_, ?_, ?_, ?_, ?_⟩
  · exact masked_eq 3 1 (by decide) (by decide) (by omega)
  · exact masked_eq 1 2 (by decide) (by decide) (by omega)
  · exact remainder_eq 1 (by decide) (by omega)
  · exact masked_eq 6 2 (by decide) (by decide) (by omega)
  · exact masked_eq 2 4 (by decide) (by decide) (by omega)
  · exact masked_eq 1 1 (by decide) (by decide) (by omega)
  · have high : in_ 2 &&& 0x01 = UInt8.ofNat (fields.channelCfg.toNat / 4) :=
      remainder_eq 1 (by decide) (by omega)
    have low : (in_ 3 &&& 0xC0) >>> 6 = UInt8.ofNat (fields.channelCfg.toNat % 4) :=
      masked_eq 6 2 (by decide) (by decide) (by omega)
    rw [high, low, channels_eq _ channelCfg]
  · exact masked_eq 5 1 (by decide) (by decide) (by omega)
  · exact masked_eq 4 1 (by decide) (by decide) (by omega)
  · exact masked_eq 3 1 (by decide) (by decide) (by omega)
  · exact remainder_eq 1 (by decide) (by omega)
  · rw [← UInt32.toNat_inj, frameLength_toNat, UInt32.toNat_ofNat']
    omega
  · rw [← UInt32.toNat_inj, fullness_toNat, UInt32.toNat_ofNat']
    omega
  · exact remainder_eq 2 (by decide) (by omega)

/-- Every seven bytes are the header of some fields. -/
theorem stands_exists (in_ : Memory UInt8) : ∃ fields : AdtsFields, fields.Stands in_ := by
  let fields : AdtsFields :=
    { syncword := BitVec.ofNat 12 ((in_ 0).toNat * 16 + (in_ 1).toNat / 16)
      id := BitVec.ofNat 1 ((in_ 1).toNat / 8)
      layer := BitVec.ofNat 2 ((in_ 1).toNat / 2)
      protectionAbsent := BitVec.ofNat 1 (in_ 1).toNat
      profile := BitVec.ofNat 2 ((in_ 2).toNat / 64)
      samplingFreqIndex := BitVec.ofNat 4 ((in_ 2).toNat / 4)
      privateBit := BitVec.ofNat 1 ((in_ 2).toNat / 2)
      channelCfg := BitVec.ofNat 3 ((in_ 2).toNat * 4 + (in_ 3).toNat / 64)
      originalCopy := BitVec.ofNat 1 ((in_ 3).toNat / 32)
      home := BitVec.ofNat 1 ((in_ 3).toNat / 16)
      copyrightIdentificationBit := BitVec.ofNat 1 ((in_ 3).toNat / 8)
      copyrightIdentificationStart := BitVec.ofNat 1 ((in_ 3).toNat / 4)
      aacFrameLength :=
        BitVec.ofNat 13 ((in_ 3).toNat * 2048 + (in_ 4).toNat * 8 + (in_ 5).toNat / 32)
      adtsBufferFullness := BitVec.ofNat 11 ((in_ 5).toNat * 64 + (in_ 6).toNat / 4)
      numberOfRawDataBlockInFrame := BitVec.ofNat 2 (in_ 6).toNat }
  have byte0 := (in_ 0).toNat_lt
  have byte1 := (in_ 1).toNat_lt
  have byte2 := (in_ 2).toNat_lt
  have byte3 := (in_ 3).toNat_lt
  have byte4 := (in_ 4).toNat_lt
  have byte5 := (in_ 5).toNat_lt
  have byte6 := (in_ 6).toNat_lt
  have channels : ((in_ 2).toNat * 4 + (in_ 3).toNat / 64) % 2 ^ 3 =
      (in_ 2).toNat % 2 * 4 + (in_ 3).toNat / 64 := by
    omega
  have length : ((in_ 3).toNat * 2048 + (in_ 4).toNat * 8 + (in_ 5).toNat / 32) % 2 ^ 13 =
      (in_ 3).toNat % 4 * 2048 + (in_ 4).toNat * 8 + (in_ 5).toNat / 32 := by
    omega
  have fullness : ((in_ 5).toNat * 64 + (in_ 6).toNat / 4) % 2 ^ 11 =
      (in_ 5).toNat % 32 * 64 + (in_ 6).toNat / 4 := by
    omega
  refine ⟨fields, stands_iff.mpr ?_⟩
  constructor <;> simp only [fields, BitVec.toNat_ofNat, channels, length, fullness]
  all_goals
    clear channels length fullness
    omega

end AdtsFields

/-- The first twelve bits are ones. -/
def AllOnes (in_ : Memory UInt8) : Prop := (in_ 0).toNat * 16 + (in_ 1).toNat / 16 = 0xFFF

/-- The parser returns this record for an encoded header, and refuses what is no header. -/
structure Inverts (record : AdtsFields → AdtsHeader) (in_ : Memory UInt8) : Prop where
  accepted : ∀ fields : AdtsFields, fields.Stands in_ → fields.syncword = 0xFFF →
    parseAdtsHeader in_ = (0, record fields)
  refused : ¬ AllOnes in_ → (parseAdtsHeader in_).1 = -1

theorem allOnes_iff (in_ : Memory UInt8) :
    AllOnes in_ ↔ in_ 0 = 0xFF ∧ in_ 1 &&& 0xF0 = 0xF0 := by
  have byte0 := (in_ 0).toNat_lt
  have byte1 := (in_ 1).toNat_lt
  rw [AllOnes, syncNibble, ← UInt8.toNat_inj]
  change _ ↔ (in_ 0).toNat = 255 ∧ _
  omega

theorem AdtsFields.Stands.allOnes {fields : AdtsFields} {in_ : Memory UInt8}
    (stands : fields.Stands in_) : AllOnes in_ ↔ fields.syncword = 0xFFF := by
  obtain ⟨byte0, byte1, _⟩ := stands_iff.mp stands
  have id := fields.id.isLt
  have layer := fields.layer.isLt
  have protectionAbsent := fields.protectionAbsent.isLt
  rw [AllOnes, ← BitVec.toNat_inj, byte0, byte1]
  change _ ↔ fields.syncword.toNat = 4095
  omega

theorem parseAdtsHeader_refused {in_ : Memory UInt8} (other : ¬ AllOnes in_) :
    (parseAdtsHeader in_).1 = -1 := by
  rw [allOnes_iff] at other
  rw [parseAdtsHeader, if_neg other]

/-- Seven bytes are no header when the first twelve bits are not all ones. -/
theorem inverts_of_not_allOnes (record : AdtsFields → AdtsHeader) {in_ : Memory UInt8}
    (other : ¬ AllOnes in_) : Inverts record in_ where
  accepted _ stands sync := absurd (stands.allOnes.mpr sync) other
  refused := parseAdtsHeader_refused

/-- The mask of the start bit takes a bit of the length. -/
theorem AdtsFields.Stands.startBits {fields : AdtsFields} {in_ : Memory UInt8}
    (stands : fields.Stands in_) :
    fields.copyrightIdentificationStart.toNat = (in_ 3).toNat / 4 % 2 ∧
      fields.aacFrameLength.toNat / 2048 % 2 = (in_ 3).toNat % 2 := by
  have byte3 := (stands_iff.mp stands).byte3
  have start := fields.copyrightIdentificationStart.isLt
  have length := fields.aacFrameLength.isLt
  omega

/-- No header comes back whole, for its sync word does not come back. Apart from the sync word a
header comes back exactly when its start bit agrees with the lowest bit of the same byte. -/
theorem parseAdtsHeader_inverts_iff (in_ : Memory UInt8) :
    (Inverts AdtsFields.toHeader in_ ↔ ¬ AllOnes in_) ∧
      (Inverts AdtsFields.behindSync in_ ↔
        (AllOnes in_ → (in_ 3).toNat / 4 % 2 = (in_ 3).toNat % 2)) := by
  obtain ⟨fields, stands⟩ := AdtsFields.stands_exists in_
  refine ⟨⟨fun inverts ones => ?_, inverts_of_not_allOnes _⟩,
    fun inverts ones => ?_, fun agree => ?_⟩
  · have sync := stands.allOnes.mp ones
    have whole := inverts.accepted fields stands sync
    rw [stands.parsed sync] at whole
    have cleared : (0 : UInt32) = UInt32.ofNat fields.syncword.toNat :=
      congrArg (fun result => result.2.syncword) whole
    rw [sync] at cleared
    exact absurd cleared (by decide)
  · have sync := stands.allOnes.mp ones
    have whole := inverts.accepted fields stands sync
    rw [stands.parsed sync] at whole
    have start : UInt8.ofNat (fields.aacFrameLength.toNat / 2048 % 2) =
        UInt8.ofNat fields.copyrightIdentificationStart.toNat :=
      congrArg (fun result => result.2.copyrightIdentificationStart) whole
    obtain ⟨left, right⟩ := stands.startBits
    rw [left, right, ← UInt8.toNat_inj, UInt8.toNat_ofNat', UInt8.toNat_ofNat'] at start
    omega
  · refine ⟨fun other here sync => ?_, parseAdtsHeader_refused⟩
    obtain ⟨left, right⟩ := here.startBits
    rw [here.parsed sync, right, ← agree (here.allOnes.mpr sync), ← left]
    rfl

/-- A length of more than 2047 bytes sets the start bit of a header that has it cleared. -/
theorem parseAdtsHeader_startBit :
    ¬ Inverts AdtsFields.toHeader (fun index => (plainFields 1 2048).bytes.getD index 0) ∧
      ¬ Inverts AdtsFields.behindSync (fun index => (plainFields 1 2048).bytes.getD index 0) := by
  constructor
  · intro inverts
    have whole := inverts.accepted (plainFields 1 2048) (by decide +kernel) rfl
    exact absurd whole (by decide +kernel)
  · intro inverts
    have whole := inverts.accepted (plainFields 1 2048) (by decide +kernel) rfl
    exact absurd whole (by decide +kernel)

end FzServer.Streaming
