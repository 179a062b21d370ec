import Mathlib.Data.List.Infix
import Mathlib.Data.List.TakeWhile
import Mathlib.Tactic.Common

/-
This file gives the C string functions on byte lists.
-/

namespace FzServer.Foundation

/-- The literals of the program are ASCII. -/
def ascii (text : String) : List UInt8 :=
  text.toList.map fun character => UInt8.ofNat character.toNat

/-- A C string ends before the first zero byte. -/
def cstring (memory : List UInt8) : List UInt8 := memory.takeWhile (· ≠ 0)

/-- These are the blanks of the C locale. -/
def isspace (character : UInt8) : Bool :=
  character = 0x20 ∨ 0x09 ≤ character ∧ character ≤ 0x0D

def isdigit (character : UInt8) : Bool := 0x30 ≤ character ∧ character ≤ 0x39

def strstr (text pattern : List UInt8) : Bool := pattern <:+: text

/-- The successive calls return the nonempty pieces between delimiters. -/
def strtok (delimiter : UInt8) (text : List UInt8) : List (List UInt8) :=
  (text.splitOn delimiter).filter (· ≠ [])

/-- Ordinary characters of a format must match the input exactly. -/
def scanLiteral (literal text : List UInt8) : Option (List UInt8) :=
  if literal <+: text then some (text.drop literal.length) else none

/-- This is the conversion `%s`. -/
def scanToken (text : List UInt8) : Option (List UInt8 × List UInt8) :=
  let rest := text.dropWhile isspace
  let token := rest.takeWhile fun character => !isspace character
  if token = [] then none else some (token, rest.drop token.length)

def decimalValue (digits : List UInt8) : Nat :=
  digits.foldl (fun value digit => 10 * value + (digit - 0x30).toNat) 0

/-- The C library clamps the number to a long, and the store keeps its low thirty-two bits. -/
def storeInt (value : Int) : Int :=
  let long :=
    if value < -0x8000000000000000 then -0x8000000000000000
    else if 0x7FFFFFFFFFFFFFFF < value then 0x7FFFFFFFFFFFFFFF
    else value
  long.bmod 0x100000000

/-- This is the conversion `%d`. -/
def scanInt (text : List UInt8) : Option Int :=
  let rest := text.dropWhile isspace
  let magnitude (unsigned : List UInt8) : Option Nat :=
    let digits := unsigned.takeWhile isdigit
    if digits = [] then none else some (decimalValue digits)
  match rest with
  | [] => none
  | sign :: unsigned =>
      if sign = 0x2D then (magnitude unsigned).map fun value => storeInt (-value)
      else if sign = 0x2B then (magnitude unsigned).map fun value => storeInt value
      else (magnitude rest).map fun value => storeInt value

/-- This is the text behind the number that the conversion `%d` reads. -/
def afterInt (text : List UInt8) : List UInt8 :=
  match text.dropWhile isspace with
  | [] => []
  | sign :: unsigned =>
      if sign = 0x2D ∨ sign = 0x2B then unsigned.dropWhile isdigit
      else (sign :: unsigned).dropWhile isdigit

/-- This is the output of `%d`. -/
def decimal (value : Int) : List UInt8 :=
  (if value < 0 then [0x2D] else []) ++
    (Nat.toDigits 10 value.natAbs).map fun digit => UInt8.ofNat digit.toNat

/-- A text without a zero byte is all there. -/
theorem cstring_append {first : List UInt8} (solid : 0 ∉ first) (second : List UInt8) :
    cstring (first ++ second) = first ++ cstring second := by
  rw [cstring, List.takeWhile_append_of_pos]
  · rfl
  · intro character member
    rw [decide_eq_true_iff]
    exact fun zero => solid (zero ▸ member)

/-- The text behind a zero byte is not there. -/
theorem cstring_append_of_mem {first : List UInt8} (zero : 0 ∈ first) (second : List UInt8) :
    cstring (first ++ second) = cstring first := by
  induction first with
  | nil => exact absurd zero (by simp)
  | cons character first ih =>
      rw [List.cons_append, cstring, cstring, List.takeWhile_cons, List.takeWhile_cons]
      by_cases stops : character = 0
      · simp [stops]
      · have later : 0 ∈ first := by simpa [Ne.symm stops] using zero
        rw [← cstring, ← cstring, ih later]

/-- A line break separates the tokens on its two sides. -/
theorem strtok_append (delimiter : UInt8) (first second : List UInt8) :
    strtok delimiter (first ++ delimiter :: second) =
      strtok delimiter first ++ strtok delimiter second := by
  rw [strtok, List.splitOn_append_cons_self, List.filter_append]
  rfl

/-- A nonempty text without the delimiter is one token. -/
theorem strtok_single (delimiter : UInt8) (text : List UInt8) (nonempty : text ≠ [])
    (absent : delimiter ∉ text) : strtok delimiter text = [text] := by
  rw [strtok, List.splitOn_eq_singleton absent]
  simp [nonempty]

@[simp] theorem strtok_nil (delimiter : UInt8) : strtok delimiter [] = [] := rfl

/-- A pattern without the separator lies on one side of it. -/
theorem infix_separator_iff {pattern first second : List UInt8} {separator : UInt8}
    (absent : separator ∉ pattern) :
    pattern <:+: first ++ separator :: second ↔ pattern <:+: first ∨ pattern <:+: second := by
  rw [List.infix_append_iff, List.infix_cons_iff]
  constructor
  · rintro (inFirst | (starts | inSecond) | ⟨front, back, rfl, suffix, starts⟩)
    · exact Or.inl inFirst
    · cases pattern with
      | nil => exact Or.inl List.nil_infix
      | cons head tail =>
          rw [List.cons_prefix_cons] at starts
          exact absurd (starts.1 ▸ List.mem_cons_self) absent
    · exact Or.inr inSecond
    · cases back with
      | nil => exact Or.inl (by simpa using suffix.isInfix)
      | cons head tail =>
          rw [List.cons_prefix_cons] at starts
          exact absurd (by simp [starts.1]) absent
  · rintro (inFirst | inSecond)
    · exact Or.inl inFirst
    · exact Or.inr (Or.inl (Or.inr inSecond))

/-- Blanks before a token are skipped, and the token ends before the next blank. -/
theorem scanToken_append {blanks token rest : List UInt8}
    (skipped : ∀ character ∈ blanks, isspace character = true)
    (solid : ∀ character ∈ token, isspace character = false) (nonempty : token ≠ [])
    (ended : ∀ character ∈ rest.head?, isspace character = true) :
    scanToken (blanks ++ (token ++ rest)) = some (token, rest) := by
  have start : (token ++ rest).dropWhile isspace = token ++ rest := by
    cases token with
    | nil => exact absurd rfl nonempty
    | cons head tail =>
        rw [List.cons_append, List.dropWhile_cons_of_neg]
        rw [solid head List.mem_cons_self]
        exact Bool.false_ne_true
  have stop : rest.takeWhile (fun character => !isspace character) = [] := by
    cases rest with
    | nil => rfl
    | cons head tail =>
        rw [List.takeWhile_cons_of_neg]
        rw [ended head rfl]
        exact Bool.false_ne_true
  have found : (token ++ rest).takeWhile (fun character => !isspace character) = token := by
    rw [List.takeWhile_append_of_pos, stop, List.append_nil]
    intro character member
    rw [solid character member]
    rfl
  simp only [scanToken, List.dropWhile_append_of_pos skipped, start, found, if_neg nonempty,
    List.drop_left]

/-- A last character that stops the reader is not read. -/
theorem takeWhile_stop {Cell : Type} (reads : Cell → Bool) (text : List Cell) {last : Cell}
    (stops : reads last = false) : (text ++ [last]).takeWhile reads = text.takeWhile reads := by
  induction text with
  | nil => simp [stops]
  | cons character text ih =>
      rw [List.cons_append, List.takeWhile_cons, List.takeWhile_cons, ih]

/-- A digit is no blank. -/
theorem isspace_of_isdigit {character : UInt8} (digit : isdigit character = true) :
    isspace character = false := by
  simp only [isdigit, isspace, decide_eq_true_eq, decide_eq_false_iff_not, UInt8.le_iff_toNat_le,
    ← UInt8.toNat_inj, UInt8.reduceToNat] at digit ⊢
  omega

/-- A digit in front is read as it stands, without a blank and without a sign. -/
theorem digit_front {digit : UInt8} (isDigit : isdigit digit = true) (rest : List UInt8) :
    (digit :: rest).dropWhile isspace = digit :: rest ∧ digit ≠ 0x2D ∧ digit ≠ 0x2B := by
  refine ⟨?_, ?_, ?_⟩
  · apply List.dropWhile_cons_of_neg
    rw [isspace_of_isdigit isDigit]
    exact Bool.false_ne_true
  · rintro rfl
    exact absurd isDigit (by decide)
  · rintro rfl
    exact absurd isDigit (by decide)

/-- Blanks and decimal digits are a number. -/
theorem scanInt_digits {blanks digits : List UInt8}
    (skipped : ∀ character ∈ blanks, isspace character = true)
    (each : ∀ character ∈ digits, isdigit character = true) (nonempty : digits ≠ []) :
    scanInt (blanks ++ digits) = some (storeInt (decimalValue digits)) := by
  have all : digits.takeWhile isdigit = digits := List.takeWhile_eq_self_iff.mpr each
  cases digits with
  | nil => exact absurd rfl nonempty
  | cons digit rest =>
      obtain ⟨start, notMinus, notPlus⟩ := digit_front (each digit List.mem_cons_self) rest
      simp only [scanInt, List.dropWhile_append_of_pos skipped, start, if_neg notMinus,
        if_neg notPlus, all, if_neg nonempty]
      rfl

/-- The store keeps exactly the numbers that fit thirty-one bits. -/
theorem storeInt_eq_iff (value : Nat) : storeInt value = value ↔ value < 0x80000000 := by
  have low : ¬ (value : Int) < -0x8000000000000000 := by omega
  rw [storeInt, if_neg low]
  by_cases clamped : 0x7FFFFFFFFFFFFFFF < (value : Int)
  · have clamp : Int.bmod 0x7FFFFFFFFFFFFFFF 0x100000000 = -1 := rfl
    rw [if_pos clamped, clamp]
    omega
  · rw [if_neg clamped, Int.bmod_eq_emod]
    split_ifs with wraps <;> omega

/-- A carriage return behind the text does not change the token. -/
theorem scanToken_carriage (text : List UInt8) :
    scanToken (text ++ [0x0D]) =
      (scanToken text).map fun found => (found.1, found.2 ++ [0x0D]) := by
  have blank : isspace 0x0D = true := rfl
  rw [scanToken, scanToken, List.dropWhile_append]
  cases rest : text.dropWhile isspace with
  | nil => simp [blank]
  | cons character tail =>
      have inside : ((character :: tail).takeWhile fun other => !isspace other).length ≤
          (character :: tail).length := (List.takeWhile_prefix _).length_le
      have stops : ((character :: tail) ++ [0x0D]).takeWhile (fun other => !isspace other) =
          (character :: tail).takeWhile fun other => !isspace other := takeWhile_stop _ _ rfl
      simp only [List.isEmpty_cons, Bool.false_eq_true, if_false, stops,
        List.drop_append_of_le_length inside]
      split_ifs <;> rfl

/-- A carriage return behind the text does not change the number. -/
theorem scanInt_carriage (text : List UInt8) : scanInt (text ++ [0x0D]) = scanInt text := by
  have blank : isspace 0x0D = true := rfl
  rw [scanInt, scanInt, List.dropWhile_append]
  cases rest : text.dropWhile isspace with
  | nil => simp [blank]
  | cons sign unsigned =>
      have digits : ((sign :: unsigned) ++ [0x0D]).takeWhile isdigit =
          (sign :: unsigned).takeWhile isdigit := takeWhile_stop _ _ rfl
      simp only [List.isEmpty_cons, Bool.false_eq_true, if_false, List.cons_append,
        takeWhile_stop isdigit unsigned (show isdigit 0x0D = false from rfl)] at digits ⊢
      rw [digits]

/-- A pattern without the separator does not end with it. -/
theorem strstr_separator {text pattern : List UInt8} {separator : UInt8}
    (absent : separator ∉ pattern) (nonempty : pattern ≠ []) :
    strstr (text ++ [separator]) pattern = strstr text pattern := by
  rw [strstr, strstr, decide_eq_decide, infix_separator_iff absent, List.infix_nil,
    or_iff_left nonempty]

/-- A literal without the separator does not end with it. -/
theorem prefix_separator_iff {text literal : List UInt8} {separator : UInt8}
    (absent : separator ∉ literal) : literal <+: text ++ [separator] ↔ literal <+: text := by
  constructor
  · intro starts
    rcases List.prefix_concat_iff.mp starts with whole | inside
    · exact absurd (by simp [whole]) absent
    · exact inside
  · exact fun starts => starts.trans (List.prefix_append _ _)

/-- A literal is scanned off the text behind it. -/
theorem scanLiteral_append (literal rest : List UInt8) :
    scanLiteral literal (literal ++ rest) = some rest := by
  rw [scanLiteral, if_pos (List.prefix_append _ _), List.drop_left]

end FzServer.Foundation
