import Mathlib.Data.List.Basic
import Mathlib.Tactic.Common

/-
This file reads one field after a loop whose later steps overwrite earlier ones or clear it.
-/

namespace FzServer.Foundation

section Loop

variable {State Item Value : Type}

/-- The rest of the loop overwrites what its first item writes. -/
theorem lastWrite_cons (write : Item → Option Value) (item : Item) (items : List Item)
    (old : Value) :
    ((item :: items).filterMap write).getLast?.getD old =
      (items.filterMap write).getLast?.getD ((write item).getD old) := by
  cases written : write item with
  | none => rw [List.filterMap_cons_none written, Option.getD_none]
  | some value =>
      rw [List.filterMap_cons_some written, List.getLast?_cons, Option.getD_some,
        Option.getD_some]

/-- The last item that writes the field decides its value. -/
theorem foldl_lastWrite (step : State → Item → State)
    (field : State → Value) (write : Item → Option Value) (items : List Item) (state : State)
    (writes : ∀ item ∈ items, ∀ before,
      field (step before item) = (write item).getD (field before)) :
    field (items.foldl step state) = (items.filterMap write).getLast?.getD (field state) := by
  induction items generalizing state with
  | nil => rfl
  | cons item items ih =>
      have later := ih (step state item) fun other member =>
        writes other (List.mem_cons_of_mem item member)
      rw [List.foldl_cons, later, writes item List.mem_cons_self, lastWrite_cons]

/-- A loop that never writes the field keeps it. -/
theorem foldl_kept (step : State → Item → State)
    (field : State → Value) (items : List Item) (state : State)
    (kept : ∀ item ∈ items, ∀ before, field (step before item) = field before) :
    field (items.foldl step state) = field state := by
  have last := foldl_lastWrite step field (fun _ => none) items state kept
  rwa [List.filterMap_none] at last

end Loop

section Reading

variable {State Item Entry Value : Type} (read : Item → Option Entry)
  (apply : State → Entry → State)

/-- A loop that reads each item before it applies it stops at one that it cannot read. -/
theorem foldlM_reads (items : List Item) (state : State) :
    (∃ final,
        items.foldlM (fun before item => (read item).map (apply before)) state = some final) ↔
      ∀ item ∈ items, ∃ entry, read item = some entry := by
  induction items generalizing state with
  | nil => simp
  | cons item items ih =>
      rw [List.foldlM_cons, List.forall_mem_cons]
      cases read item with
      | none => simp
      | some entry =>
          change (∃ final, items.foldlM _ (apply state entry) = some final) ↔ _
          simp [ih]

/-- The last item that writes the field decides its value here too. -/
theorem foldlM_lastWrite (field : State → Value) (write : Entry → Option Value)
    (writes : ∀ entry before, field (apply before entry) = (write entry).getD (field before))
    {items : List Item} {state final : State}
    (ran : items.foldlM (fun before item => (read item).map (apply before)) state = some final) :
    field final =
      (items.filterMap fun item => (read item).bind write).getLast?.getD (field state) := by
  induction items generalizing state with
  | nil =>
      obtain rfl := Option.some.inj ran
      rfl
  | cons item items ih =>
      rw [List.foldlM_cons] at ran
      obtain ⟨next, first, rest⟩ := Option.bind_eq_some_iff.mp ran
      obtain ⟨entry, given, rfl⟩ := Option.map_eq_some_iff.mp first
      rw [ih rest, lastWrite_cons, given, Option.bind_some, writes]

end Reading

/-- The last item is asked first. -/
theorem lastWrite_concat {Item Value : Type} (write : Item → Option Value) (items : List Item)
    (item : Item) :
    ((items ++ [item]).filterMap write).getLast? =
      (write item).or (items.filterMap write).getLast? := by
  rw [List.filterMap_append, List.getLast?_append]
  cases written : write item with
  | none => rw [List.filterMap_cons_none written, List.filterMap_nil, List.getLast?_nil]
  | some value =>
      rw [List.filterMap_cons_some written, List.filterMap_nil, List.getLast?_singleton]

/-- The last write is one behind which no item writes. -/
theorem lastWrite_iff {Item Value : Type} {write : Item → Option Value} {items : List Item}
    {value : Value} :
    (items.filterMap write).getLast? = some value ↔
      ∃ front item back, items = front ++ item :: back ∧ write item = some value ∧
        ∀ other ∈ back, write other = none := by
  rw [List.getLast?_filterMap, List.findSome?_eq_some_iff]
  constructor
  · rintro ⟨back, item, front, split, written, silent⟩
    refine ⟨front.reverse, item, back.reverse, ?_, written, fun other member => ?_⟩
    · rw [← List.reverse_inj, split]
      simp
    · exact silent other (List.mem_reverse.mp member)
  · rintro ⟨front, item, back, rfl, written, silent⟩
    refine ⟨back.reverse, item, front.reverse, by simp, written, fun other member => ?_⟩
    exact silent other (List.mem_reverse.mp member)

/-- The last write comes from one of the items. -/
theorem lastWrite_mem {Item Value : Type} {write : Item → Option Value} {items : List Item}
    {value : Value} (last : (items.filterMap write).getLast? = some value) :
    ∃ item ∈ items, write item = some value :=
  List.mem_filterMap.mp (List.mem_of_getLast? last)

section Cleared

variable {Item Value : Type} (write : Item → Option (Option Value))

/-- A write gives the field a value or takes its value away. -/
def lastValue (items : List Item) : Option Value := (items.filterMap write).getLast?.join

def Sets (item : Item) : Prop := ∃ value, write item = some (some value)

theorem lastValue_concat (items : List Item) (item : Item) :
    lastValue write (items ++ [item]) = (write item).getD (lastValue write items) := by
  rw [lastValue, lastWrite_concat]
  cases write item <;> rfl

variable {write} {items : List Item}

/-- The field has the value of the last write. -/
theorem lastValue_eq_some_iff {value : Value} :
    lastValue write items = some value ↔
      ∃ front item back, items = front ++ item :: back ∧ write item = some (some value) ∧
        ∀ other ∈ back, write other = none := by
  rw [lastValue, Option.join_eq_some_iff, lastWrite_iff]

/-- The field has a value if a write gave it one and none has taken it away since. -/
theorem lastValue_isSome_iff :
    (lastValue write items).isSome ↔
      ∃ front item back, items = front ++ item :: back ∧ Sets write item ∧
        ∀ other ∈ back, write other ≠ some none := by
  rw [Option.isSome_iff_exists]
  constructor
  · rintro ⟨value, last⟩
    obtain ⟨front, item, back, split, written, silent⟩ := lastValue_eq_some_iff.mp last
    refine ⟨front, item, back, split, ⟨value, written⟩, fun other member cleared => ?_⟩
    rw [silent other member] at cleared
    exact nomatch cleared
  · rintro ⟨front, item, back, rfl, ⟨value, written⟩, kept⟩
    rw [lastValue, List.filterMap_append, List.filterMap_cons_some written,
      List.getLast?_append_of_ne_nil _ (List.cons_ne_nil _ _), List.getLast?_cons]
    cases last : (back.filterMap write).getLast? with
    | none => exact ⟨value, rfl⟩
    | some change =>
        obtain ⟨other, member, wrote⟩ := lastWrite_mem last
        cases change with
        | none => exact absurd wrote (kept other member)
        | some later => exact ⟨later, rfl⟩

/-- No value is lost exactly if a value that is taken away is given again. -/
theorem lastValue_kept_iff :
    ((∃ item ∈ items, Sets write item) → (lastValue write items).isSome) ↔
      ∀ front item back, items = front ++ item :: back → write item = some none →
        (∃ other ∈ front, Sets write other) → ∃ other ∈ back, Sets write other := by
  constructor
  case mp =>
      rintro kept front item back rfl cleared ⟨earlier, before, given⟩
      obtain ⟨value, last⟩ := Option.isSome_iff_exists.mp
        (kept ⟨earlier, List.mem_append_left _ before, given⟩)
      rw [lastValue, Option.join_eq_some_iff, List.filterMap_append,
        List.filterMap_cons_some cleared,
        List.getLast?_append_of_ne_nil _ (List.cons_ne_nil _ _)] at last
      rcases List.mem_cons.mp (List.mem_of_getLast? last) with impossible | behind
      · exact nomatch impossible
      · obtain ⟨other, member, written⟩ := List.mem_filterMap.mp behind
        exact ⟨other, member, value, written⟩
  case mpr =>
      rintro again ⟨item, member, value, written⟩
      have gives : value ∈ items.filterMap fun other => (write other).join :=
        List.mem_filterMap.mpr ⟨item, member, by rw [written, Option.join_some]⟩
      obtain ⟨front, last, back, rfl, latest, silent⟩ :=
        lastWrite_iff.mp (List.getLast?_eq_some_getLast (List.ne_nil_of_mem gives))
      rw [lastValue_isSome_iff]
      refine ⟨front, last, back, rfl, ⟨_, Option.join_eq_some_iff.mp latest⟩, ?_⟩
      intro other behind cleared
      -- A value that were taken away behind the last one given would be given once more.
      obtain ⟨first, rest, rfl⟩ := List.append_of_mem behind
      obtain ⟨later, there, _, set_⟩ := again (front ++ last :: first) other rest (by simp) cleared
        ⟨last, by simp, _, Option.join_eq_some_iff.mp latest⟩
      have none_ := silent later (List.mem_append_right _ (List.mem_cons_of_mem _ there))
      rw [set_, Option.join_some] at none_
      exact nomatch none_

end Cleared

end FzServer.Foundation
