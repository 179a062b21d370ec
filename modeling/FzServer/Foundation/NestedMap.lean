import FzServer.Foundation.SortedMap

/-
This file gives maps from two keys, stored as one sorted map inside another.
-/

namespace FzServer.Foundation.SortedMap

open Std

variable {Outer Inner Value : Type} [Ord Outer] [Ord Inner]

/-- A row that is missing has no values. -/
def lookup (map : SortedMap Outer (SortedMap Inner Value)) (outer : Outer) (inner : Inner) :
    Option Value := (map.find outer).bind fun row => row.find inner

variable (map : SortedMap Outer (SortedMap Inner Value)) (outer other : Outer)
  (inner another : Inner)

@[simp] theorem lookup_empty :
    (empty : SortedMap Outer (SortedMap Inner Value)).lookup outer inner = none := rfl

theorem find_getD_empty : ((map.find outer).getD empty).find inner = map.lookup outer inner := by
  rw [lookup]
  cases map.find outer <;> rfl

variable [LawfulEqOrd Outer] [DecidableEq Outer]

/-- Taking a row away takes all its values away. -/
theorem lookup_erase :
    (map.erase outer).lookup other inner =
      if other = outer then none else map.lookup other inner := by
  rw [lookup, find_erase, lookup]
  split_ifs <;> rfl

variable [TransOrd Outer]

/-- A fresh row has no values. -/
theorem lookup_insert_empty :
    (map.insert outer empty).lookup other inner =
      if other = outer then none else map.lookup other inner := by
  rw [lookup, find_insert, lookup]
  split_ifs <;> rfl

variable [LawfulEqOrd Inner] [DecidableEq Inner]

/-- An empty row stays behind its last value. -/
def drop : SortedMap Outer (SortedMap Inner Value) :=
  match map.find outer with
  | some row => map.insert outer (row.erase inner)
  | none => map

/-- Taking one value away changes exactly one place. -/
theorem lookup_drop :
    (map.drop outer inner).lookup other another =
      if other = outer ∧ another = inner then none else map.lookup other another := by
  rw [drop]
  cases row : map.find outer with
  | none =>
      split_ifs with same
      · rw [same.1, lookup, row, Option.bind_none]
      · rfl
  | some found =>
      rw [lookup, find_insert]
      by_cases same : other = outer
      · rw [if_pos same, Option.bind_some, find_erase, lookup, same, row]
        simp
      · rw [if_neg same, if_neg fun both => same both.1, lookup]

variable [TransOrd Inner]

/-- A row that is missing is inserted with the value. -/
def put (value : Value) : SortedMap Outer (SortedMap Inner Value) :=
  map.insert outer (((map.find outer).getD empty).insert inner value)

/-- Storing a value changes exactly one place. -/
theorem lookup_put (value : Value) :
    (map.put outer inner value).lookup other another =
      if other = outer ∧ another = inner then some value else map.lookup other another := by
  rw [lookup, put, find_insert]
  by_cases same : other = outer
  · rw [if_pos same, Option.bind_some, find_insert, find_getD_empty, same]
    simp
  · rw [if_neg same, if_neg fun both => same both.1, lookup]

omit [DecidableEq Outer] [DecidableEq Inner] in
/-- A value that is stored where it stands changes nothing. -/
theorem put_found {value : Value} (found : map.lookup outer inner = some value) :
    map.put outer inner value = map := by
  obtain ⟨row, given, inside⟩ := Option.bind_eq_some_iff.mp found
  rw [put, given, Option.getD_some, row.insert_found inside, map.insert_found given]

end FzServer.Foundation.SortedMap
