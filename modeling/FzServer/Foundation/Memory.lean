import Mathlib.Data.List.Range
import Mathlib.Tactic.Common

/-
This file gives byte memories that a pointer may read past any valid length.
-/

namespace FzServer.Foundation

/-- A memory gives one cell for each address after a pointer. -/
abbrev Memory (Cell : Type) := Nat → Cell

variable {Cell : Type}

/-- This is the memory seen from a pointer that moved forward. -/
def Memory.advance (memory : Memory Cell) (offset : Nat) : Memory Cell :=
  fun address => memory (offset + address)

/-- This list holds the cells from one address on. -/
def window (memory : Memory Cell) (start length : Nat) : List Cell :=
  (List.range length).map fun index => memory (start + index)

/-- This memory holds the given values from one address on. -/
def overlay (memory : Memory Cell) (start : Nat) (values : List Cell) : Memory Cell :=
  fun address =>
    if start ≤ address then (values[address - start]?).getD (memory address) else memory address

/-- This copy reads the source before it writes the destination. -/
def memcpy (destination : Memory Cell) (offset : Nat) (source : Memory Cell)
    (start length : Nat) : Memory Cell :=
  overlay destination offset (window source start length)

@[simp] theorem advance_apply (memory : Memory Cell) (offset address : Nat) :
    memory.advance offset address = memory (offset + address) := rfl

@[simp] theorem window_length (memory : Memory Cell) (start length : Nat) :
    (window memory start length).length = length := by
  simp [window]

@[simp] theorem window_zero (memory : Memory Cell) (start : Nat) :
    window memory start 0 = [] := rfl

theorem window_getElem? (memory : Memory Cell) (start length index : Nat) :
    (window memory start length)[index]? =
      if index < length then some (memory (start + index)) else none := by
  by_cases inside : index < length
  · simp [window, inside]
  · simp [window, inside]

theorem window_append (memory : Memory Cell) (start first second : Nat) :
    window memory start (first + second) =
      window memory start first ++ window memory (start + first) second := by
  simp [window, List.range_add, Function.comp_def, Nat.add_assoc]

/-- A shorter window is the front of a longer one. -/
theorem window_take (memory : Memory Cell) (start : Nat) {length whole : Nat}
    (shorter : length ≤ whole) :
    window memory start length = (window memory start whole).take length := by
  obtain ⟨rest, rfl⟩ := Nat.exists_eq_add_of_le shorter
  rw [window_append, List.take_left' (window_length memory start length)]

theorem window_advance (memory : Memory Cell) (offset start length : Nat) :
    window (memory.advance offset) start length = window memory (offset + start) length := by
  simp only [window, advance_apply, Nat.add_assoc]

/-- A nonempty window starts with the cell at its address. -/
theorem window_succ (memory : Memory Cell) (start length : Nat) :
    window memory start (length + 1) = memory start :: window memory (start + 1) length := by
  rw [Nat.add_comm length 1, window_append]
  simp [window]

/-- Two windows agree when their cells agree. -/
theorem window_congr {first second : Memory Cell} {start length : Nat}
    (agree : ∀ index < length, first (start + index) = second (start + index)) :
    window first start length = window second start length := by
  apply List.map_congr_left
  intro index member
  exact agree index (List.mem_range.mp member)

theorem overlay_inside (memory : Memory Cell) (start : Nat) (values : List Cell) (index : Nat)
    (inside : index < values.length) :
    overlay memory start values (start + index) = values[index] := by
  simp [overlay, List.getElem?_eq_getElem inside]

theorem overlay_before (memory : Memory Cell) (start : Nat) (values : List Cell) (address : Nat)
    (before : address < start) : overlay memory start values address = memory address := by
  simp [overlay, Nat.not_le.mpr before]

theorem overlay_after (memory : Memory Cell) (start : Nat) (values : List Cell) (address : Nat)
    (after : start + values.length ≤ address) :
    overlay memory start values address = memory address := by
  have missing : values[address - start]? = none := by
    rw [List.getElem?_eq_none_iff]
    omega
  simp [overlay, missing]

/-- Reading back an overlay gives the stored values. -/
theorem window_overlay (memory : Memory Cell) (start : Nat) (values : List Cell) :
    window (overlay memory start values) start values.length = values := by
  apply List.ext_getElem?
  intro index
  rw [window_getElem?]
  by_cases inside : index < values.length
  · rw [if_pos inside, overlay_inside memory start values index inside,
      List.getElem?_eq_getElem inside]
  · rw [if_neg inside, List.getElem?_eq_none (Nat.le_of_not_gt inside)]

/-- An overlay keeps every window that ends before it. -/
theorem window_overlay_before (memory : Memory Cell) (start : Nat) (values : List Cell)
    (low length : Nat) (before : low + length ≤ start) :
    window (overlay memory start values) low length = window memory low length := by
  apply window_congr
  intro index inside
  exact overlay_before memory start values _ (by omega)

/-- A header stored in front of a copied body is read back as one window. -/
theorem window_header_memcpy (memory source : Memory Cell) (header : List Cell)
    (start length : Nat) :
    window (memcpy (overlay memory 0 header) header.length source start length) 0
        (header.length + length) =
      header ++ window source start length := by
  rw [window_append, Nat.zero_add, memcpy, window_overlay_before _ _ _ _ _ (by omega),
    window_overlay]
  congr 1
  have same := window_overlay (overlay memory 0 header) header.length (window source start length)
  rwa [window_length] at same

/-- A body copied to the start is read back as one window. -/
theorem window_memcpy (memory source : Memory Cell) (start length : Nat) :
    window (memcpy memory 0 source start length) 0 length = window source start length := by
  have same := window_overlay memory 0 (window source start length)
  rwa [window_length] at same

end FzServer.Foundation
