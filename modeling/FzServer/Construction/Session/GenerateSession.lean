import FzServer.Foundation.CString

/-
This file gives the identifiers of new sessions.
-/

namespace FzServer.Sessions

/-- The digit is lower case. -/
def hexDigit (nibble : UInt8) : UInt8 :=
  if nibble < 10 then 0x30 + nibble else 0x61 + (nibble - 10)

/-- Each byte gives two digits. -/
def bytesToHex (bytes : List UInt8) : List UInt8 :=
  bytes.flatMap fun byte => [hexDigit (byte / 16), hexDigit (byte % 16)]

/-- The random device gives sixteen bytes. -/
def generateSessionId (randomBytes : Vector UInt8 16) : List UInt8 :=
  bytesToHex randomBytes.toList

/-- No digit is a blank or a zero byte. -/
theorem hexDigit_solid (nibble : UInt8) (small : nibble < 16) :
    0x30 ≤ hexDigit nibble ∧ hexDigit nibble ≤ 0x66 := by
  have every : ∀ value : Fin 16, 0x30 ≤ hexDigit (UInt8.ofNat value) ∧
      hexDigit (UInt8.ofNat value) ≤ 0x66 := by decide
  have bound : nibble.toNat < 16 := by simpa [UInt8.lt_iff_toNat_lt] using small
  have found := every ⟨nibble.toNat, bound⟩
  rwa [UInt8.ofNat_toNat] at found

theorem hexDigit_injective {first second : UInt8} (one : first < 16) (two : second < 16)
    (same : hexDigit first = hexDigit second) : first = second := by
  have every : ∀ low high : Fin 16,
      hexDigit (UInt8.ofNat low) = hexDigit (UInt8.ofNat high) → low = high := by decide
  have firstBound : first.toNat < 16 := by simpa [UInt8.lt_iff_toNat_lt] using one
  have secondBound : second.toNat < 16 := by simpa [UInt8.lt_iff_toNat_lt] using two
  have found := every ⟨first.toNat, firstBound⟩ ⟨second.toNat, secondBound⟩
  rw [UInt8.ofNat_toNat, UInt8.ofNat_toNat] at found
  exact UInt8.toNat_inj.mp (Fin.mk.inj (found same))

/-- Two bytes with the same digits are equal. -/
theorem byte_of_digits {first second : UInt8}
    (high : hexDigit (first / 16) = hexDigit (second / 16))
    (low : hexDigit (first % 16) = hexDigit (second % 16)) : first = second := by
  have bounds (byte : UInt8) : byte / 16 < 16 ∧ byte % 16 < 16 := by
    have small := byte.toNat_lt
    constructor
    · rw [UInt8.lt_iff_toNat_lt, UInt8.toNat_div]
      change byte.toNat / 16 < 16
      omega
    · rw [UInt8.lt_iff_toNat_lt, UInt8.toNat_mod]
      exact Nat.mod_lt _ (by decide)
  have highs := hexDigit_injective (bounds first).1 (bounds second).1 high
  have lows := hexDigit_injective (bounds first).2 (bounds second).2 low
  have quotients := congrArg UInt8.toNat highs
  have remainders := congrArg UInt8.toNat lows
  rw [UInt8.toNat_div, UInt8.toNat_div] at quotients
  rw [UInt8.toNat_mod, UInt8.toNat_mod] at remainders
  apply UInt8.toNat_inj.mp
  rw [← Nat.div_add_mod first.toNat (UInt8.toNat 16), quotients, remainders, Nat.div_add_mod]

theorem bytesToHex_injective : Function.Injective bytesToHex := by
  intro first
  induction first with
  | nil =>
      intro second same
      cases second with
      | nil => rfl
      | cons => nomatch same
  | cons byte bytes ih =>
      intro second same
      cases second with
      | nil => nomatch same
      | cons other others =>
          rw [bytesToHex, List.flatMap_cons] at same
          obtain ⟨high, rest⟩ := List.cons.inj same
          obtain ⟨low, rest⟩ := List.cons.inj rest
          rw [byte_of_digits high low, ih rest]

theorem generateSessionId_injective : Function.Injective generateSessionId :=
  fun _ _ same => Vector.toList_inj.mp (bytesToHex_injective same)

theorem bytesToHex_length (bytes : List UInt8) :
    (bytesToHex bytes).length = 2 * bytes.length := by
  induction bytes with
  | nil => rfl
  | cons byte bytes ih =>
      rw [bytesToHex, List.flatMap_cons, List.length_append]
      change 2 + (bytesToHex bytes).length = 2 * (bytes.length + 1)
      rw [ih]
      omega

/-- An identifier has thirty-two digits. -/
@[simp] theorem generateSessionId_length (randomBytes : Vector UInt8 16) :
    (generateSessionId randomBytes).length = 32 := by
  rw [generateSessionId, bytesToHex_length, Vector.length_toList]

/-- An identifier is never empty. -/
theorem generateSessionId_ne_nil (randomBytes : Vector UInt8 16) :
    generateSessionId randomBytes ≠ [] := by
  intro empty
  have length := generateSessionId_length randomBytes
  rw [empty] at length
  exact absurd length (by decide)

end FzServer.Sessions
