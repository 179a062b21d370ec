import Mathlib.Tactic.Common

/-
This file splits machine words into bytes and reverses their order.
-/

namespace FzServer.Foundation

/-- This byte of a word counts from the least significant one. -/
def byteOf {width : Nat} (word : BitVec width) (index : Nat) : BitVec 8 :=
  word.extractLsb' (8 * index) 8

/-- The least significant byte comes first. -/
def littleEndian {width : Nat} (word : BitVec width) (count : Nat) : List UInt8 :=
  (List.range count).map fun index => UInt8.ofBitVec (byteOf word index)

def reverse16 (word : BitVec 16) : BitVec 16 := byteOf word 0 ++ byteOf word 1

def reverse32 (word : BitVec 32) : BitVec 32 :=
  byteOf word 0 ++ byteOf word 1 ++ byteOf word 2 ++ byteOf word 3

/-- A statement about a byte holds when it holds for the 256 values. -/
theorem byte_forall (property : UInt8 → Prop) [DecidablePred property]
    (all : ∀ value : Fin 256, property (UInt8.ofFin value)) (byte : UInt8) : property byte :=
  all byte.toFin

@[simp] theorem byteOf_zero (byte : BitVec 8) : byteOf byte 0 = byte := by
  ext bit inRange
  simp [byteOf]

@[simp] theorem byteOf_append_zero {width : Nat} (high : BitVec width) (low : BitVec 8) :
    byteOf (high ++ low) 0 = low := by
  ext bit inRange
  simp [byteOf, BitVec.getLsbD_append, inRange]

@[simp] theorem byteOf_append_succ {width : Nat} (high : BitVec width) (low : BitVec 8)
    (index : Nat) : byteOf (high ++ low) (index + 1) = byteOf high index := by
  ext bit inRange
  have above : ¬8 * (index + 1) + bit < 8 := by omega
  have shifted : 8 * (index + 1) + bit - 8 = 8 * index + bit := by omega
  simp [byteOf, BitVec.getLsbD_append, above, shifted]

/-- The two bytes of a word give it back. -/
theorem append_byteOf_16 (word : BitVec 16) : byteOf word 1 ++ byteOf word 0 = word := by
  ext bit inRange
  simp only [byteOf, BitVec.getElem_append, BitVec.getElem_extractLsb']
  split
  · rw [Nat.mul_zero, Nat.zero_add]
    exact BitVec.getLsbD_eq_getElem inRange
  · rw [show 8 * 1 + (bit - 8) = bit by omega]
    exact BitVec.getLsbD_eq_getElem inRange

/-- The four bytes of a word give it back. -/
theorem append_byteOf_32 (word : BitVec 32) :
    byteOf word 3 ++ byteOf word 2 ++ byteOf word 1 ++ byteOf word 0 = word := by
  ext bit inRange
  simp only [byteOf, BitVec.getElem_append, BitVec.getElem_extractLsb']
  split
  · rw [Nat.mul_zero, Nat.zero_add]
    exact BitVec.getLsbD_eq_getElem inRange
  · split
    · rw [show 8 * 1 + (bit - 8) = bit by omega]
      exact BitVec.getLsbD_eq_getElem inRange
    · split
      · rw [show 8 * 2 + (bit - 8 - 8) = bit by omega]
        exact BitVec.getLsbD_eq_getElem inRange
      · rw [show 8 * 3 + (bit - 8 - 8 - 8) = bit by omega]
        exact BitVec.getLsbD_eq_getElem inRange

theorem append_toNat {high low : Nat} (first : BitVec high) (second : BitVec low) :
    (first ++ second).toNat = first.toNat <<< low + second.toNat := by
  rw [BitVec.toNat_append, ← Nat.shiftLeft_add_eq_or_of_lt second.isLt]

/-- The two bytes of a word in network order are its value. -/
theorem byteOf_toNat (word : BitVec 16) :
    256 * (byteOf word 1).toNat + (byteOf word 0).toNat = word.toNat := by
  have whole := congrArg BitVec.toNat (append_byteOf_16 word)
  rw [BitVec.toNat_append, ← Nat.shiftLeft_add_eq_or_of_lt (byteOf word 0).isLt,
    Nat.shiftLeft_eq] at whole
  omega

/-- The four bytes of a word in network order are its value. -/
theorem byteOf_toNat_32 (word : BitVec 32) :
    16777216 * (byteOf word 3).toNat + 65536 * (byteOf word 2).toNat +
      256 * (byteOf word 1).toNat + (byteOf word 0).toNat = word.toNat := by
  have whole := congrArg BitVec.toNat (append_byteOf_32 word)
  rw [BitVec.toNat_append, ← Nat.shiftLeft_add_eq_or_of_lt (byteOf word 0).isLt,
    BitVec.toNat_append, ← Nat.shiftLeft_add_eq_or_of_lt (byteOf word 1).isLt,
    BitVec.toNat_append, ← Nat.shiftLeft_add_eq_or_of_lt (byteOf word 2).isLt] at whole
  simp only [Nat.shiftLeft_eq] at whole
  omega

theorem byteOf_reverse16 (word : BitVec 16) :
    byteOf (reverse16 word) 0 = byteOf word 1 ∧ byteOf (reverse16 word) 1 = byteOf word 0 := by
  constructor
  · exact byteOf_append_zero _ _
  · exact (byteOf_append_succ (byteOf word 0) _ 0).trans (byteOf_zero _)

theorem byteOf_reverse32 (word : BitVec 32) :
    byteOf (reverse32 word) 0 = byteOf word 3 ∧ byteOf (reverse32 word) 1 = byteOf word 2 ∧
      byteOf (reverse32 word) 2 = byteOf word 1 ∧ byteOf (reverse32 word) 3 = byteOf word 0 := by
  refine ⟨byteOf_append_zero _ _, ?_, ?_, ?_⟩
  · exact (byteOf_append_succ _ _ 0).trans (byteOf_append_zero _ _)
  · exact (byteOf_append_succ _ _ 1).trans
      ((byteOf_append_succ _ _ 0).trans (byteOf_append_zero _ _))
  · exact (byteOf_append_succ _ _ 2).trans ((byteOf_append_succ _ _ 1).trans
      ((byteOf_append_succ (byteOf word 0) _ 0).trans (byteOf_zero _)))

@[simp] theorem reverse16_reverse16 (word : BitVec 16) : reverse16 (reverse16 word) = word := by
  obtain ⟨low, high⟩ := byteOf_reverse16 word
  conv_lhs => rw [reverse16]
  rw [low, high, append_byteOf_16]

@[simp] theorem reverse32_reverse32 (word : BitVec 32) : reverse32 (reverse32 word) = word := by
  obtain ⟨first, second, third, fourth⟩ := byteOf_reverse32 word
  conv_lhs => rw [reverse32]
  rw [first, second, third, fourth, append_byteOf_32]

end FzServer.Foundation
