import FzServer.Foundation.Memory

/-
This file gives an open file with a read position.
-/

namespace FzServer.Foundation

/-- The position may stand behind the end of the content. -/
structure FileStream (Cell : Type) where
  content : List Cell
  position : Nat

namespace FileStream

variable {Cell : Type}

/-- A read returns the cells from the position on, at most the given number. -/
def fread (file : FileStream Cell) (count : Nat) : List Cell × FileStream Cell :=
  let cells := (file.content.drop file.position).take count
  (cells, { file with position := file.position + cells.length })

/-- A relative seek to a negative position fails and moves nothing. -/
def fseek (file : FileStream Cell) (offset : Int) : FileStream Cell :=
  if (file.position : Int) + offset < 0 then file
  else { file with position := ((file.position : Int) + offset).toNat }

/-- These cells stand behind the position. -/
def unread (file : FileStream Cell) : List Cell := file.content.drop file.position

/-- A read delivers the front of the unread cells. -/
theorem fread_cells (file : FileStream Cell) (count : Nat) :
    (file.fread count).1 = file.unread.take count := rfl

/-- A read leaves the rest of the unread cells. -/
theorem fread_unread (file : FileStream Cell) (count : Nat) :
    (file.fread count).2.unread = file.unread.drop count := by
  change file.content.drop (file.position + ((file.content.drop file.position).take count).length) =
    (file.content.drop file.position).drop count
  rw [← List.drop_drop, List.length_take]
  by_cases inside : count ≤ (file.content.drop file.position).length
  · rw [Nat.min_eq_left inside]
  · have short := Nat.le_of_not_le inside
    rw [Nat.min_eq_right short, List.drop_length, List.drop_of_length_le short]

/-- Seeking back over the unread part of a chunk leaves the position behind the used part. -/
theorem fseek_fread (file : FileStream Cell) (count used : Nat) :
    (file.fread count).2.fseek ((used : Int) - ((file.fread count).1.length : Int)) =
      { file with position := file.position + used } := by
  have target : ((file.position + (file.fread count).1.length : Nat) : Int) +
      ((used : Int) - ((file.fread count).1.length : Int)) =
        ((file.position + used : Nat) : Int) := by
    push_cast
    omega
  change FileStream.fseek ⟨file.content, file.position + (file.fread count).1.length⟩ _ = _
  rw [fseek]
  simp only [target]
  rw [if_neg (by omega), Int.toNat_natCast]

end FileStream

end FzServer.Foundation
