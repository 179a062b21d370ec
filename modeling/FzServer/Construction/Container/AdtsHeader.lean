import FzServer.Foundation.Memory

/-
This file parses the header of one ADTS frame.
-/

namespace FzServer.Aac

open Foundation

/-- Each field has the width of the variable that holds it. -/
structure AdtsHeader where
  syncword : UInt32
  id : UInt8
  layer : UInt8
  protectionAbsent : UInt8
  profile : UInt8
  samplingFreqIndex : UInt8
  privateBit : UInt8
  channelCfg : UInt8
  originalCopy : UInt8
  home : UInt8
  copyrightIdentificationBit : UInt8
  copyrightIdentificationStart : UInt8
  aacFrameLength : UInt32
  adtsBufferFullness : UInt32
  numberOfRawDataBlockInFrame : UInt8
  deriving DecidableEq

/-- The parser clears every field first. -/
def emptyAdtsHeader : AdtsHeader where
  syncword := 0
  id := 0
  layer := 0
  protectionAbsent := 0
  profile := 0
  samplingFreqIndex := 0
  privateBit := 0
  channelCfg := 0
  originalCopy := 0
  home := 0
  copyrightIdentificationBit := 0
  copyrightIdentificationStart := 0
  aacFrameLength := 0
  adtsBufferFullness := 0
  numberOfRawDataBlockInFrame := 0

/-- The thirteen bits of the length lie in three bytes. -/
def frameLength (in_ : Memory UInt8) : UInt32 :=
  (((in_ 3).toUInt32 &&& 0x03) <<< 11) ||| (((in_ 4).toUInt32 &&& 0xFF) <<< 3) |||
    (((in_ 5).toUInt32 &&& 0xE0) >>> 5)

/-- No assignment sets the sync word. -/
def parseAdtsHeader (in_ : Memory UInt8) : Int × AdtsHeader :=
  if in_ 0 = 0xFF ∧ in_ 1 &&& 0xF0 = 0xF0 then
    (0, { emptyAdtsHeader with
      id := (in_ 1 &&& 0x08) >>> 3
      layer := (in_ 1 &&& 0x06) >>> 1
      protectionAbsent := in_ 1 &&& 0x01
      profile := (in_ 2 &&& 0xC0) >>> 6
      samplingFreqIndex := (in_ 2 &&& 0x3C) >>> 2
      privateBit := (in_ 2 &&& 0x02) >>> 1
      channelCfg := ((in_ 2 &&& 0x01) <<< 2) ||| ((in_ 3 &&& 0xC0) >>> 6)
      originalCopy := (in_ 3 &&& 0x20) >>> 5
      home := (in_ 3 &&& 0x10) >>> 4
      copyrightIdentificationBit := (in_ 3 &&& 0x08) >>> 3
      -- The shift binds tighter than the mask.
      copyrightIdentificationStart := in_ 3 &&& ((0x04 : UInt8) >>> 2)
      aacFrameLength := frameLength in_
      adtsBufferFullness :=
        (((in_ 5).toUInt32 &&& 0x1F) <<< 6) ||| (((in_ 6).toUInt32 &&& 0xFC) >>> 2)
      numberOfRawDataBlockInFrame := in_ 6 &&& 0x03 })
  else (-1, emptyAdtsHeader)

/-- The parser accepts a header by its first twelve bits. -/
theorem parseAdtsHeader_accepted {in_ : Memory UInt8}
    (sync : in_ 0 = 0xFF ∧ in_ 1 &&& 0xF0 = 0xF0) :
    (parseAdtsHeader in_).1 = 0 ∧ (parseAdtsHeader in_).2.protectionAbsent = in_ 1 &&& 0x01 ∧
      (parseAdtsHeader in_).2.aacFrameLength = frameLength in_ := by
  rw [parseAdtsHeader, if_pos sync]
  exact ⟨rfl, rfl, rfl⟩

/-- A mask over the low bits of a byte is a remainder. -/
theorem frameLength_toNat (in_ : Memory UInt8) :
    (frameLength in_).toNat =
      2048 * ((in_ 3).toNat % 4) + 8 * (in_ 4).toNat + (in_ 5).toNat / 32 := by
  have high : ((in_ 3).toUInt32 &&& 0x03).toNat = (in_ 3).toNat % 4 := by
    rw [UInt32.toNat_and, UInt8.toNat_toUInt32]
    exact Nat.and_two_pow_sub_one_eq_mod _ 2
  have middle : ((in_ 4).toUInt32 &&& 0xFF).toNat = (in_ 4).toNat := by
    rw [UInt32.toNat_and, UInt8.toNat_toUInt32]
    exact (Nat.and_two_pow_sub_one_eq_mod _ 8).trans (Nat.mod_eq_of_lt (in_ 4).toNat_lt)
  have low : (((in_ 5).toUInt32 &&& 0xE0) >>> 5).toNat = (in_ 5).toNat / 32 := by
    have byte := (in_ 5).toNat_lt
    rw [UInt32.toNat_shiftRight, UInt32.toNat_and, UInt8.toNat_toUInt32]
    change ((in_ 5).toNat &&& 0xE0) >>> 5 = (in_ 5).toNat / 32
    rw [Nat.shiftRight_and_distrib, Nat.shiftRight_eq_div_pow]
    change (in_ 5).toNat / 32 &&& 2 ^ 3 - 1 = (in_ 5).toNat / 32
    rw [Nat.and_two_pow_sub_one_eq_mod, Nat.mod_eq_of_lt (by omega)]
  have byte3 := (in_ 3).toNat_lt
  have byte4 := (in_ 4).toNat_lt
  have byte5 := (in_ 5).toNat_lt
  rw [frameLength, UInt32.toNat_or, UInt32.toNat_or, UInt32.toNat_shiftLeft,
    UInt32.toNat_shiftLeft, high, middle, low]
  change (((in_ 3).toNat % 4) <<< 11 % 4294967296 ||| (in_ 4).toNat <<< 3 % 4294967296) |||
    (in_ 5).toNat / 32 = _
  have fits3 : ((in_ 3).toNat % 4) <<< 11 < 4294967296 := by
    rw [Nat.shiftLeft_eq]
    omega
  have fits4 : (in_ 4).toNat <<< 3 < 4294967296 := by
    rw [Nat.shiftLeft_eq]
    omega
  have upper : ((in_ 3).toNat % 4) <<< 11 ||| (in_ 4).toNat <<< 3 =
      (((in_ 3).toNat % 4) <<< 8 + (in_ 4).toNat) <<< 3 := by
    rw [Nat.shiftLeft_add_eq_or_of_lt (by omega), Nat.shiftLeft_or_distrib, ← Nat.shiftLeft_add]
  rw [Nat.mod_eq_of_lt fits3, Nat.mod_eq_of_lt fits4, upper, ← Nat.shiftLeft_add_eq_or_of_lt (by omega)]
  simp only [Nat.shiftLeft_eq]
  omega

end FzServer.Aac
