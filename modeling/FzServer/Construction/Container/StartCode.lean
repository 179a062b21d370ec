import FzServer.Foundation.FileStream

/-
This file finds the start codes that delimit NAL units.
-/

namespace FzServer.H264

open Foundation

def startCode3 (rec : Memory UInt8) : Bool :=
  rec 0 = 0x00 ∧ rec 1 = 0x00 ∧ rec 2 = 0x01

def startCode4 (rec : Memory UInt8) : Bool :=
  rec 0 = 0x00 ∧ rec 1 = 0x00 ∧ rec 2 = 0x00 ∧ rec 3 = 0x01

/-- The loop advances the pointer until it stands on a start code. -/
def searchStartCode : Nat → Nat → Memory UInt8 → Option Nat
  | 0, _, _ => none
  | remaining + 1, startNum, rec =>
      if startCode3 rec || startCode4 rec then some startNum
      else searchStartCode remaining (startNum + 1) (rec.advance 1)

/-- The result holds `filesize` and the moved file. No value stands for the result -1. -/
def extract_content (rec : Memory UInt8) (fp : FileStream UInt8) (size : Nat) :
    Option (Nat × FileStream UInt8) :=
  let search (step : Nat) :=
    match searchStartCode (size - 3) (step + 1) (rec.advance step) with
    | none => none
    | some startNum =>
        let filesize := startNum - 1
        some (filesize, fp.fseek ((filesize : Int) - (size : Int)))
  if startCode3 rec then search 3
  else if startCode4 rec then search 4
  else none

/-- A start code of either length stands at this address. -/
def codeAt (memory : Memory UInt8) (address : Nat) : Bool :=
  startCode3 (memory.advance address) || startCode4 (memory.advance address)

theorem codeAt_iff (memory : Memory UInt8) (address : Nat) :
    codeAt memory address = true ↔
      memory address = 0 ∧ memory (address + 1) = 0 ∧
        (memory (address + 2) = 1 ∨ memory (address + 2) = 0 ∧ memory (address + 3) = 1) := by
  rw [codeAt, Bool.or_eq_true, startCode3, startCode4, decide_eq_true_iff, decide_eq_true_iff]
  simp only [advance_apply, Nat.add_zero]
  tauto

/-- The search stops at the first start code among the addresses that it visits. -/
theorem searchStartCode_first (memory : Memory UInt8) (remaining startNum start found : Nat)
    (inside : found < remaining) (stands : codeAt memory (start + found) = true)
    (before : ∀ index < found, codeAt memory (start + index) = false) :
    searchStartCode remaining startNum (memory.advance start) = some (startNum + found) := by
  induction remaining generalizing startNum start found with
  | zero => omega
  | succ remaining ih =>
      rw [searchStartCode]
      cases found with
      | zero =>
          rw [codeAt, Nat.add_zero] at stands
          rw [if_pos stands, Nat.add_zero]
      | succ found =>
          have here := before 0 (by omega)
          rw [codeAt, Nat.add_zero] at here
          have moved : (memory.advance start).advance 1 = memory.advance (start + 1) := by
            funext address
            simp only [advance_apply, Nat.add_assoc]
          rw [if_neg (by simp [here]), moved, ih (startNum + 1) (start + 1) found (by omega)
            (by rw [Nat.add_assoc, Nat.add_comm 1]; exact stands)
            (fun index smaller => by
              rw [Nat.add_assoc, Nat.add_comm 1]
              exact before (index + 1) (by omega))]
          congr 1
          omega

/-- The search fails when no visited address holds a start code. -/
theorem searchStartCode_none (memory : Memory UInt8) (remaining startNum start : Nat)
    (absent : ∀ index < remaining, codeAt memory (start + index) = false) :
    searchStartCode remaining startNum (memory.advance start) = none := by
  induction remaining generalizing startNum start with
  | zero => rfl
  | succ remaining ih =>
      have here := absent 0 (by omega)
      rw [codeAt, Nat.add_zero] at here
      have moved : (memory.advance start).advance 1 = memory.advance (start + 1) := by
        funext address
        simp only [advance_apply, Nat.add_assoc]
      rw [searchStartCode, if_neg (by simp [here]), moved]
      exact ih (startNum + 1) (start + 1) fun index smaller => by
        rw [Nat.add_assoc, Nat.add_comm 1]
        exact absent (index + 1) (by omega)

/-- This is the length of the start code at the front. -/
def frontLength (rec : Memory UInt8) : Option Nat :=
  if startCode3 rec then some 3 else if startCode4 rec then some 4 else none

/-- The cut runs the search behind the start code at the front. -/
theorem extract_content_eq (rec : Memory UInt8) (fp : FileStream UInt8) (size : Nat) :
    extract_content rec fp size = (frontLength rec).bind fun step =>
      (searchStartCode (size - 3) (step + 1) (rec.advance step)).map fun startNum =>
        (startNum - 1, fp.fseek (((startNum - 1 : Nat) : Int) - (size : Int))) := by
  rw [extract_content, frontLength]
  split_ifs
  · simp only [Option.bind_some]
    cases searchStartCode (size - 3) (3 + 1) (rec.advance 3) <;> rfl
  · simp only [Option.bind_some]
    cases searchStartCode (size - 3) (4 + 1) (rec.advance 4) <;> rfl
  · rfl

/-- The cut ends at the first start code among the addresses that the search visits. -/
theorem extract_content_first {rec : Memory UInt8} {step found : Nat} (fp : FileStream UInt8)
    (size : Nat) (front : frontLength rec = some step) (inside : found < size - 3)
    (stands : codeAt rec (step + found) = true)
    (before : ∀ index < found, codeAt rec (step + index) = false) :
    extract_content rec fp size =
      some (step + found, fp.fseek (((step + found : Nat) : Int) - (size : Int))) := by
  have last : step + 1 + found - 1 = step + found := by omega
  rw [extract_content_eq, front, Option.bind_some,
    searchStartCode_first rec _ _ _ found inside stands before, Option.map_some, last]

theorem extract_content_none {rec : Memory UInt8} {step : Nat} (fp : FileStream UInt8) (size : Nat)
    (front : frontLength rec = some step)
    (absent : ∀ index < size - 3, codeAt rec (step + index) = false) :
    extract_content rec fp size = none := by
  rw [extract_content_eq, front, Option.bind_some, searchStartCode_none rec _ _ _ absent]
  rfl

/-- The search only moves forward, and not farther than its number of steps. -/
theorem searchStartCode_range {remaining startNum found : Nat} {rec : Memory UInt8}
    (search : searchStartCode remaining startNum rec = some found) :
    startNum ≤ found ∧ found < startNum + remaining := by
  induction remaining generalizing startNum rec with
  | zero => exact absurd search (by simp [searchStartCode])
  | succ remaining ih =>
      rw [searchStartCode] at search
      split_ifs at search
      · have here := Option.some.inj search
        omega
      · have later := ih search
        omega

theorem frontLength_cases {rec : Memory UInt8} {step : Nat} (front : frontLength rec = some step) :
    step = 3 ∨ step = 4 := by
  unfold frontLength at front
  split_ifs at front <;> cases front
  · exact Or.inl rfl
  · exact Or.inr rfl

/-- The unit has at least its start code, the chunk holds it, and the file moves behind it. -/
theorem extract_content_bounds {rec : Memory UInt8} {fp moved : FileStream UInt8} {size found : Nat}
    (cut : extract_content rec fp size = some (found, moved)) :
    3 ≤ found ∧ found ≤ size ∧ moved = fp.fseek ((found : Int) - (size : Int)) := by
  rw [extract_content_eq] at cut
  obtain ⟨step, front, cut⟩ := Option.bind_eq_some_iff.mp cut
  obtain ⟨startNum, search, cut⟩ := Option.map_eq_some_iff.mp cut
  have range := searchStartCode_range search
  have length := frontLength_cases front
  obtain ⟨rfl, rfl⟩ := Prod.mk.inj cut
  exact ⟨by omega, by omega, rfl⟩

end FzServer.H264
