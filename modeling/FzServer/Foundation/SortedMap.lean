import FzServer.Foundation.LastWrite
import Mathlib.Algebra.Order.BigOperators.Group.List
import Mathlib.Algebra.Order.Group.Nat
import Mathlib.Tactic.Common

/-
This file gives finite maps that are read in the order of their keys.
-/

namespace FzServer.Foundation

open Std

/-- No two entries have the same key. -/
structure SortedMap (Key Value : Type) [Ord Key] where
  entries : List (Key × Value)
  sorted : entries.Pairwise fun first second => compare first.1 second.1 = .lt

section Entries

variable {Key Value : Type} [Ord Key]

/-- An entry with the key is replaced. -/
def insertEntry (key : Key) (value : Value) : List (Key × Value) → List (Key × Value)
  | [] => [(key, value)]
  | entry :: entries =>
      match compare key entry.1 with
      | .lt => (key, value) :: entry :: entries
      | .eq => (key, value) :: entries
      | .gt => entry :: insertEntry key value entries

theorem mem_insertEntry {key : Key} {value : Value} {entries : List (Key × Value)}
    {other : Key × Value} (member : other ∈ insertEntry key value entries) :
    other = (key, value) ∨ other ∈ entries := by
  induction entries with
  | nil => exact Or.inl (List.mem_singleton.mp member)
  | cons entry entries ih =>
      rw [insertEntry] at member
      split at member
      · exact List.mem_cons.mp member
      · exact (List.mem_cons.mp member).imp_right (List.mem_cons_of_mem _)
      · rcases List.mem_cons.mp member with here | later
        · exact Or.inr (here ▸ List.mem_cons_self)
        · exact (ih later).imp_right (List.mem_cons_of_mem _)

variable [TransOrd Key]

theorem sorted_insertEntry [LawfulEqOrd Key] (key : Key) (value : Value)
    {entries : List (Key × Value)}
    (sorted : entries.Pairwise fun first second => compare first.1 second.1 = .lt) :
    (insertEntry key value entries).Pairwise
      fun first second => compare first.1 second.1 = .lt := by
  induction entries with
  | nil => exact List.pairwise_singleton _ _
  | cons entry entries ih =>
      obtain ⟨above, rest⟩ := List.pairwise_cons.mp sorted
      rw [insertEntry]
      split
      next below =>
        refine List.pairwise_cons.mpr ⟨fun other member => ?_, sorted⟩
        rcases List.mem_cons.mp member with rfl | later
        · exact below
        · exact TransCmp.lt_trans below (above other later)
      next same =>
        obtain rfl := LawfulEqCmp.eq_of_compare same
        exact List.pairwise_cons.mpr ⟨above, rest⟩
      next behind =>
        refine List.pairwise_cons.mpr ⟨fun other member => ?_, ih rest⟩
        rcases mem_insertEntry member with rfl | later
        · exact OrientedCmp.gt_iff_lt.mp behind
        · exact above other later

end Entries

namespace SortedMap

variable {Key Value : Type} [Ord Key]

theorem ext {first second : SortedMap Key Value} (same : first.entries = second.entries) :
    first = second := by
  cases first
  cases second
  cases same
  rfl

def empty : SortedMap Key Value := ⟨[], .nil⟩

def find (map : SortedMap Key Value) (key : Key) : Option Value :=
  (map.entries.find? fun entry => compare key entry.1 = .eq).map Prod.snd

def erase (map : SortedMap Key Value) (key : Key) : SortedMap Key Value where
  entries := map.entries.filter fun entry => compare key entry.1 ≠ .eq
  sorted := map.sorted.filter _

variable [TransOrd Key] [LawfulEqOrd Key]

def insert (map : SortedMap Key Value) (key : Key) (value : Value) : SortedMap Key Value where
  entries := insertEntry key value map.entries
  sorted := sorted_insertEntry key value map.sorted

/-- A key behind all the others joins at the end. -/
theorem insert_last (map : SortedMap Key Value) {key : Key} (value : Value)
    (last : ∀ entry ∈ map.entries, compare entry.1 key = .lt) :
    (map.insert key value).entries = map.entries ++ [(key, value)] := by
  obtain ⟨entries, sorted⟩ := map
  change insertEntry key value entries = entries ++ [(key, value)]
  induction entries with
  | nil => rfl
  | cons entry entries ih =>
      have behind : compare key entry.1 = .gt :=
        OrientedCmp.gt_iff_lt.mpr (last entry List.mem_cons_self)
      rw [insertEntry, behind]
      exact congrArg _ (ih (List.pairwise_cons.mp sorted).2
        fun other member => last other (List.mem_cons_of_mem _ member))

@[simp] theorem find_insert_self (map : SortedMap Key Value) (key : Key) (value : Value) :
    (map.insert key value).find key = some value := by
  obtain ⟨entries, sorted⟩ := map
  change ((insertEntry key value entries).find? _).map Prod.snd = some value
  induction entries with
  | nil => simp [insertEntry]
  | cons entry entries ih =>
      rw [insertEntry]
      split
      next => simp
      next => simp
      next behind =>
        rw [List.find?_cons_of_neg (by simp [behind])]
        exact ih (List.pairwise_cons.mp sorted).2

theorem find_insert_of_ne (map : SortedMap Key Value) {key other : Key} (value : Value)
    (different : other ≠ key) : (map.insert key value).find other = map.find other := by
  obtain ⟨entries, sorted⟩ := map
  have foreign : compare other key ≠ .eq := mt LawfulEqCmp.eq_of_compare different
  change ((insertEntry key value entries).find? _).map Prod.snd = (entries.find? _).map Prod.snd
  induction entries with
  | nil => simp [insertEntry, foreign]
  | cons entry entries ih =>
      rw [insertEntry]
      split
      next => rw [List.find?_cons_of_neg (by simp [foreign])]
      next same =>
        obtain rfl := LawfulEqCmp.eq_of_compare same
        rw [List.find?_cons_of_neg (by simp [foreign]), List.find?_cons_of_neg (by simp [foreign])]
      next behind =>
        rw [List.find?_cons, List.find?_cons]
        split
        · rfl
        · exact ih (List.pairwise_cons.mp sorted).2

/-- An insertion changes exactly one key. -/
theorem find_insert [DecidableEq Key] (map : SortedMap Key Value) (key other : Key)
    (value : Value) :
    (map.insert key value).find other = if other = key then some value else map.find other := by
  split_ifs with same
  · rw [same, find_insert_self]
  · exact map.find_insert_of_ne value same

omit [TransOrd Key] in
/-- A removal changes exactly one key. -/
theorem find_erase [DecidableEq Key] (map : SortedMap Key Value) (key other : Key) :
    (map.erase key).find other = if other = key then none else map.find other := by
  change ((map.entries.filter _).find? _).map Prod.snd = _
  rw [List.find?_filter]
  split_ifs with same
  · subst same
    have absent : map.entries.find? (fun entry =>
        decide (decide (compare other entry.1 ≠ .eq) = true ∧
          decide (compare other entry.1 = .eq) = true)) = none := by simp
    rw [absent]
    rfl
  · refine congrArg (Option.map Prod.snd) (congrArg (fun test => map.entries.find? test) ?_)
    funext entry
    by_cases found : compare other entry.1 = .eq
    · have foreign : compare key entry.1 ≠ .eq := by
        obtain rfl := LawfulEqCmp.eq_of_compare found
        exact fun equal => same (LawfulEqCmp.eq_of_compare equal).symm
      simp [found, foreign]
    · simp [found]

/-- A value that is inserted where it stands changes nothing. -/
theorem insert_found (map : SortedMap Key Value) {key : Key} {value : Value}
    (found : map.find key = some value) : map.insert key value = map := by
  obtain ⟨entries, sorted⟩ := map
  apply ext
  change insertEntry key value entries = entries
  change (entries.find? _).map Prod.snd = some value at found
  induction entries with
  | nil => exact nomatch found
  | cons entry entries ih =>
      obtain ⟨above, rest⟩ := List.pairwise_cons.mp sorted
      rw [insertEntry]
      split
      next below =>
        rw [List.find?_cons_of_neg (by simp [below])] at found
        obtain ⟨other, found_other, _⟩ := Option.map_eq_some_iff.mp found
        have same : compare key other.1 = .eq := by simpa using List.find?_some found_other
        have behind := TransCmp.lt_trans below (above other (List.mem_of_find?_eq_some found_other))
        rw [same] at behind
        exact nomatch behind
      next same =>
        rw [List.find?_cons_of_pos (by simp [same])] at found
        obtain rfl := LawfulEqCmp.eq_of_compare same
        rw [← Option.some.inj found]
      next behind =>
        rw [List.find?_cons_of_neg (by simp [behind])] at found
        exact congrArg _ (ih rest found)

/-- A second value for a key takes the place of the first. -/
theorem insert_insert (map : SortedMap Key Value) (key : Key) (first second : Value) :
    (map.insert key first).insert key second = map.insert key second := by
  obtain ⟨entries, sorted⟩ := map
  apply ext
  change insertEntry key second (insertEntry key first entries) = insertEntry key second entries
  induction entries with
  | nil => simp [insertEntry]
  | cons entry entries ih =>
      rw [insertEntry, insertEntry]
      split
      next => simp [insertEntry]
      next => simp [insertEntry]
      next behind =>
        rw [insertEntry, behind]
        exact congrArg _ (ih (List.pairwise_cons.mp sorted).2)

/-- The entries read off the items join the map one after another. -/
def collect {Item : Type} (read : Item → Option (Key × Value)) (items : List Item)
    (map : SortedMap Key Value) : Option (SortedMap Key Value) :=
  items.foldlM (fun map item => (read item).map fun entry => map.insert entry.1 entry.2) map

theorem collect_cons {Item : Type} (read : Item → Option (Key × Value)) (item : Item)
    (items : List Item) (map : SortedMap Key Value) :
    collect read (item :: items) map =
      (read item).bind fun entry => collect read items (map.insert entry.1 entry.2) := by
  rw [collect, List.foldlM_cons]
  cases read item <;> rfl

/-- Every entry of the result was there before or was read. -/
theorem collect_mem {Item : Type} {read : Item → Option (Key × Value)} {items : List Item}
    {map result : SortedMap Key Value} (collected : collect read items map = some result)
    {entry : Key × Value} (member : entry ∈ result.entries) :
    entry ∈ map.entries ∨ ∃ item ∈ items, read item = some entry := by
  induction items generalizing map with
  | nil =>
      obtain rfl := Option.some.inj collected
      exact Or.inl member
  | cons item items ih =>
      rw [collect_cons] at collected
      obtain ⟨first, read_first, rest⟩ := Option.bind_eq_some_iff.mp collected
      rcases ih rest with old | ⟨other, inside, given⟩
      · rcases mem_insertEntry old with rfl | older
        · exact Or.inr ⟨item, List.mem_cons_self, read_first⟩
        · exact Or.inl older
      · exact Or.inr ⟨other, List.mem_cons_of_mem _ inside, given⟩

/-- A reader that keeps the keys keeps the order of the entries. -/
theorem collect_keys {Read : Type} (items : List (Key × Read)) (value : Key × Read → Value)
    (read : Key × Read → Option (Key × Value))
    (keeps : ∀ item ∈ items, read item = some (item.1, value item))
    (sorted : items.Pairwise fun first second => compare first.1 second.1 = .lt)
    (map : SortedMap Key Value)
    (above : ∀ entry ∈ map.entries, ∀ item ∈ items, compare entry.1 item.1 = .lt) :
    ∃ result, collect read items map = some result ∧
      result.entries = map.entries ++ items.map fun item => (item.1, value item) := by
  induction items generalizing map with
  | nil => exact ⟨map, rfl, (List.append_nil _).symm⟩
  | cons item items ih =>
      obtain ⟨first, rest⟩ := List.pairwise_cons.mp sorted
      have joined := map.insert_last (value item)
        fun entry member => above entry member item List.mem_cons_self
      obtain ⟨result, collected, entries⟩ := ih
        (fun other member => keeps other (List.mem_cons_of_mem _ member)) rest
        (map.insert item.1 (value item)) (by
          intro entry member other later
          rw [joined] at member
          rcases List.mem_append.mp member with old | new
          · exact above entry old other (List.mem_cons_of_mem _ later)
          · rw [List.mem_singleton.mp new]
            exact first other later)
      refine ⟨result, ?_, ?_⟩
      · rw [collect_cons, keeps item List.mem_cons_self, Option.bind_some, collected]
      · rw [entries, joined, List.map_cons, List.append_assoc]
        rfl

/-- A reader that gives every entry back gives the map back. -/
theorem collect_entries (map : SortedMap Key Value)
    {read : Key × Value → Option (Key × Value)}
    (keeps : ∀ entry ∈ map.entries, read entry = some entry) :
    collect read map.entries empty = some map := by
  obtain ⟨result, collected, entries⟩ := collect_keys map.entries Prod.snd read keeps map.sorted
    empty fun _ member => nomatch member
  rw [collected]
  exact congrArg some (ext (by simpa [empty] using entries))

/-- A map that is read back has no key that its reader makes foreign or smaller. -/
theorem collect_fixed {map : SortedMap Key Value} {read : Key × Value → Option (Key × Value)}
    (fixed : collect read map.entries empty = some map) (spoiled : Key → Prop) (size : Key → Nat)
    (keeps : ∀ entry ∈ map.entries, ¬spoiled entry.1 → ∀ given, read entry = some given →
      given.1 = entry.1)
    (spoils : ∀ entry ∈ map.entries, spoiled entry.1 → ∀ given, read entry = some given →
      given ∈ map.entries → size given.1 < size entry.1) :
    ∀ entry ∈ map.entries, ¬spoiled entry.1 := by
  intro entry member bad
  -- Each spoiled key comes from a larger one, so the keys have no bound.
  have larger (count : Nat) : ∃ other ∈ map.entries, spoiled other.1 ∧ count ≤ size other.1 := by
    induction count with
    | zero => exact ⟨entry, member, bad, Nat.zero_le _⟩
    | succ count ih =>
        obtain ⟨other, inside, badOther, above⟩ := ih
        rcases collect_mem fixed inside with impossible | ⟨source, from_, given⟩
        · exact nomatch impossible
        · by_cases badSource : spoiled source.1
          · have smaller := spoils source from_ badSource other given inside
            exact ⟨source, from_, badSource, Nat.lt_of_le_of_lt above smaller⟩
          · have same := keeps source from_ badSource other given
            exact absurd (same ▸ badOther) badSource
  obtain ⟨other, inside, _, above⟩ := larger ((map.entries.map fun entry => size entry.1).sum + 1)
  have bound : size other.1 ≤ (map.entries.map fun entry => size entry.1).sum :=
    List.single_le_sum (fun _ _ => Nat.zero_le _) _ (List.mem_map_of_mem inside)
  omega

/-- A result means that every item was read. -/
theorem collect_reads {Item : Type} {read : Item → Option (Key × Value)} {items : List Item}
    {map result : SortedMap Key Value} (collected : collect read items map = some result) :
    ∀ item ∈ items, ∃ entry, read item = some entry :=
  (foldlM_reads read (fun (before : SortedMap Key Value) entry => before.insert entry.1 entry.2)
    items map).mp ⟨result, collected⟩

/-- A reader that keeps the keys and gives the map back gives every entry back. -/
theorem collect_kept {map : SortedMap Key Value} {read : Key × Value → Option (Key × Value)}
    (fixed : collect read map.entries empty = some map)
    (keeps : ∀ entry ∈ map.entries, ∀ given, read entry = some given → given.1 = entry.1) :
    ∀ entry ∈ map.entries, read entry = some entry := by
  have keyed : ∀ entry ∈ map.entries,
      read entry = some (entry.1, ((read entry).getD entry).2) := by
    intro entry member
    obtain ⟨given, found⟩ := collect_reads fixed entry member
    rw [found, ← keeps entry member given found]
    rfl
  obtain ⟨result, collected, entries⟩ := collect_keys map.entries
    (fun entry => ((read entry).getD entry).2) read keyed map.sorted empty
    fun _ member => nomatch member
  obtain rfl := Option.some.inj (fixed.symm.trans collected)
  intro entry member
  have same : map.entries.map id =
      map.entries.map fun entry => (entry.1, ((read entry).getD entry).2) := by
    rw [List.map_id]
    exact entries
  rw [keyed entry member, ← List.map_inj_left.mp same entry member]
  rfl

end SortedMap

end FzServer.Foundation
