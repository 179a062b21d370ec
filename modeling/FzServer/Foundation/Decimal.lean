import FzServer.Foundation.CString

/-
This file reads printed numbers back.
-/

namespace FzServer.Foundation

/-- This is the number that stands where the conversion `%d` reads, of whatever size. -/
def scanNumber (text : List UInt8) : Option Int :=
  let magnitude (unsigned : List UInt8) : Option Nat :=
    let digits := unsigned.takeWhile isdigit
    if digits = [] then none else some (decimalValue digits)
  match text.dropWhile isspace with
  | [] => none
  | sign :: unsigned =>
      if sign = 0x2D then (magnitude unsigned).map fun value : Nat => -(value : Int)
      else if sign = 0x2B then (magnitude unsigned).map fun value : Nat => (value : Int)
      else (magnitude (sign :: unsigned)).map fun value : Nat => (value : Int)

/-- The conversion stores what fits an `int`. -/
theorem scanInt_eq (text : List UInt8) : scanInt text = (scanNumber text).map storeInt := by
  rw [scanInt, scanNumber]
  cases text.dropWhile isspace with
  | nil => rfl
  | cons sign unsigned =>
      dsimp only
      split_ifs <;> rfl

/-- These characters print a natural number. -/
def printed (value : Nat) : List UInt8 :=
  (Nat.toDigits 10 value).map fun digit => UInt8.ofNat digit.toNat

theorem printed_ne_nil (value : Nat) : printed value ≠ [] := by
  rw [printed, ne_eq, List.map_eq_nil_iff]
  exact Nat.toDigits_ne_nil

/-- A decimal character fits its byte. -/
theorem digit_range {digit : Char} (decimal : digit.isDigit = true) :
    0x30 ≤ digit.toNat ∧ digit.toNat ≤ 0x39 := by
  simp only [Char.isDigit, Bool.and_eq_true, decide_eq_true_eq, UInt32.le_iff_toNat_le,
    Char.toNat] at decimal ⊢
  exact decimal

theorem printed_digits (value : Nat) : ∀ digit ∈ printed value, isdigit digit = true := by
  intro digit member
  rw [printed, List.mem_map] at member
  obtain ⟨character, inside, rfl⟩ := member
  have range := digit_range (Nat.isDigit_of_mem_toDigits (by decide) (by decide) inside)
  rw [isdigit, decide_eq_true_iff, UInt8.le_iff_toNat_le, UInt8.le_iff_toNat_le,
    UInt8.toNat_ofNat']
  change 0x30 ≤ character.toNat % 256 ∧ character.toNat % 256 ≤ 0x39
  omega

/-- The printed digits have the value that they were printed from. -/
theorem decimalValue_printed (value : Nat) : decimalValue (printed value) = value := by
  have same (digits : List Char) (decimal : ∀ digit ∈ digits, digit.isDigit = true) (start : Nat) :
      (digits.map fun digit => UInt8.ofNat digit.toNat).foldl
          (fun value digit => 10 * value + (digit - 0x30).toNat) start =
        Nat.ofDigitChars 10 digits start := by
    induction digits generalizing start with
    | nil => rfl
    | cons digit digits ih =>
        have range := digit_range (decimal digit List.mem_cons_self)
        have step : (UInt8.ofNat digit.toNat - 0x30).toNat = digit.toNat - 0x30 := by
          have byte : (UInt8.ofNat digit.toNat).toNat = digit.toNat := by
            rw [UInt8.toNat_ofNat']
            omega
          rw [UInt8.toNat_sub_of_le, byte]
          · rfl
          · rw [UInt8.le_iff_toNat_le, byte]
            exact range.1
        rw [List.map_cons, List.foldl_cons, step,
          ih (fun other member => decimal other (List.mem_cons_of_mem _ member)),
          Nat.ofDigitChars_cons]
        rfl
  rw [decimalValue, printed, same _ fun digit member =>
    Nat.isDigit_of_mem_toDigits (by decide) (by decide) member]
  exact Nat.ofDigitChars_ten_toDigits

theorem decimal_natCast (value : Nat) : decimal value = printed value := by
  rw [decimal, if_neg (Int.not_lt.mpr (Int.natCast_nonneg value)), List.nil_append,
    Int.natAbs_natCast]
  rfl

/-- A number ends where no digit follows. -/
theorem scanNumber_append (value : Int) {rest : List UInt8}
    (ends : ∀ character ∈ rest.head?, isdigit character = false) :
    scanNumber (decimal value ++ rest) = some value := by
  have behind : rest.takeWhile isdigit = [] := by
    cases rest with
    | nil => rfl
    | cons character rest =>
        have noDigit := ends character rfl
        rw [List.takeWhile_cons_of_neg]
        rw [noDigit]
        exact Bool.false_ne_true
  have all (magnitude : Nat) :
      (printed magnitude ++ rest).takeWhile isdigit = printed magnitude := by
    rw [List.takeWhile_append_of_pos (printed_digits magnitude), behind, List.append_nil]
  by_cases negative : value < 0
  · have text : decimal value = 0x2D :: printed value.natAbs := by
      rw [decimal, if_pos negative]
      rfl
    have start : (0x2D :: (printed value.natAbs ++ rest)).dropWhile isspace =
        0x2D :: (printed value.natAbs ++ rest) := rfl
    rw [text, List.cons_append, scanNumber, start]
    simp only [if_true, all, if_neg (printed_ne_nil _), decimalValue_printed]
    change some (-(value.natAbs : Int)) = some value
    rw [Int.ofNat_natAbs_of_nonpos (Int.le_of_lt negative), Int.neg_neg]
  · obtain ⟨magnitude, rfl⟩ := Int.eq_ofNat_of_zero_le (Int.not_lt.mp negative)
    have digits := printed_digits magnitude
    have whole := all magnitude
    have number := decimalValue_printed magnitude
    have nonempty := printed_ne_nil magnitude
    rw [decimal_natCast]
    cases shape : printed magnitude with
    | nil => exact absurd shape nonempty
    | cons digit others =>
        rw [shape] at digits whole number
        obtain ⟨start, notMinus, notPlus⟩ :=
          digit_front (digits digit List.mem_cons_self) (others ++ rest)
        rw [List.cons_append] at whole
        rw [List.cons_append, scanNumber, start]
        simp only [if_neg notMinus, if_neg notPlus, whole, number, List.cons_ne_nil, if_false]
        rfl

/-- A printed number is read back. -/
theorem scanNumber_decimal (value : Int) : scanNumber (decimal value) = some value := by
  have alone := @scanNumber_append value [] (by simp)
  rwa [List.append_nil] at alone

/-- The number of a printed value ends with its last digit. -/
theorem afterInt_decimal (value : Int) {rest : List UInt8}
    (ends : ∀ character ∈ rest.head?, isdigit character = false) :
    afterInt (decimal value ++ rest) = rest := by
  have behind : rest.dropWhile isdigit = rest := by
    cases rest with
    | nil => rfl
    | cons character rest =>
        rw [List.dropWhile_cons_of_neg]
        rw [ends character rfl]
        exact Bool.false_ne_true
  have all (magnitude : Nat) : (printed magnitude ++ rest).dropWhile isdigit = rest := by
    rw [List.dropWhile_append_of_pos (printed_digits magnitude), behind]
  by_cases negative : value < 0
  · have text : decimal value = 0x2D :: printed value.natAbs := by
      rw [decimal, if_pos negative]
      rfl
    have start : (0x2D :: (printed value.natAbs ++ rest)).dropWhile isspace =
        0x2D :: (printed value.natAbs ++ rest) := rfl
    rw [text, List.cons_append, afterInt, start]
    simp only [true_or, if_true, all]
  · obtain ⟨magnitude, rfl⟩ := Int.eq_ofNat_of_zero_le (Int.not_lt.mp negative)
    have digits := printed_digits magnitude
    have whole := all magnitude
    have nonempty := printed_ne_nil magnitude
    rw [decimal_natCast]
    cases shape : printed magnitude with
    | nil => exact absurd shape nonempty
    | cons digit others =>
        rw [shape] at digits whole
        obtain ⟨start, notMinus, notPlus⟩ :=
          digit_front (digits digit List.mem_cons_self) (others ++ rest)
        rw [List.cons_append] at whole
        rw [List.cons_append, afterInt, start]
        simp only [notMinus, notPlus, or_self, if_false]
        exact whole

/-- Each value of a signed type of 64 bits is printed in at most twenty characters. -/
theorem decimal_length {value : Int} (small : value.natAbs < 10000000000000000000) :
    (decimal value).length ≤ 20 := by
  have magnitude : (Nat.toDigits 10 value.natAbs).length ≤ 19 :=
    (Nat.length_toDigits_le_iff (by decide) (by decide)).mpr small
  rw [decimal, List.length_append, List.length_map]
  split_ifs
  · rw [List.length_singleton]
    omega
  · rw [List.length_nil]
    omega

/-- A printed number has digits and a sign. -/
theorem decimal_mem {value : Int} {character : UInt8} (member : character ∈ decimal value) :
    character = 0x2D ∨ isdigit character = true := by
  rw [decimal, List.mem_append] at member
  rcases member with sign | digit
  · split_ifs at sign
    · exact Or.inl (List.mem_singleton.mp sign)
    · exact absurd sign (by simp)
  · exact Or.inr (printed_digits value.natAbs character digit)

end FzServer.Foundation
