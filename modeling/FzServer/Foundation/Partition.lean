import Mathlib.Data.Finset.Card
import Mathlib.Data.List.Perm.Lattice

/-
This file gives sets of cells that several holders share without overlap.
-/

namespace FzServer.Foundation

variable {Holder Cell : Type}

/-- Each cell in use belongs to exactly one holder. -/
structure Partitioned (cells : Holder → Finset Cell) (held : List Holder) (used : Finset Cell) :
    Prop where
  apart : held.Pairwise fun first second => Disjoint (cells first) (cells second)
  union : ∀ cell, cell ∈ used ↔ ∃ holder ∈ held, cell ∈ cells holder

namespace Partitioned

variable {cells : Holder → Finset Cell} {held : List Holder} {used : Finset Cell} {holder : Holder}

theorem nil : Partitioned cells [] ∅ where
  apart := List.Pairwise.nil
  union := by simp

theorem apart_erase [BEq Holder] [LawfulBEq Holder] (partitioned : Partitioned cells held used)
    (member : holder ∈ held) :
    (∀ other ∈ held.erase holder, Disjoint (cells holder) (cells other)) ∧
      (held.erase holder).Pairwise fun first second => Disjoint (cells first) (cells second) :=
  List.pairwise_cons.mp
    (((List.perm_cons_erase member).pairwise_iff fun apart => apart.symm).mp partitioned.apart)

variable [DecidableEq Cell]

/-- A new holder takes cells that nobody uses. -/
theorem take (partitioned : Partitioned cells held used) (fresh : Disjoint (cells holder) used) :
    Partitioned cells (holder :: held) (cells holder ∪ used) where
  apart := by
    refine List.pairwise_cons.mpr ⟨fun other member => ?_, partitioned.apart⟩
    refine Finset.disjoint_of_subset_right (fun cell inside => ?_) fresh
    exact (partitioned.union cell).mpr ⟨other, member, inside⟩
  union cell := by
    rw [Finset.mem_union, partitioned.union, List.exists_mem_cons_iff]

/-- A holder gives its cells back, and the others keep theirs. -/
theorem give [BEq Holder] [LawfulBEq Holder] (partitioned : Partitioned cells held used)
    (member : holder ∈ held) :
    Partitioned cells (held.erase holder) (used \ cells holder) where
  apart := (partitioned.apart_erase member).2
  union cell := by
    rw [Finset.mem_sdiff, partitioned.union]
    constructor
    · rintro ⟨⟨other, inside, here⟩, outside⟩
      refine ⟨other, (List.mem_erase_of_ne fun same => ?_).mpr inside, here⟩
      rw [same] at here
      exact outside here
    · rintro ⟨other, inside, here⟩
      refine ⟨⟨other, List.mem_of_mem_erase inside, here⟩, fun there => ?_⟩
      exact Finset.disjoint_left.mp ((partitioned.apart_erase member).1 other inside) there here

end Partitioned

end FzServer.Foundation
