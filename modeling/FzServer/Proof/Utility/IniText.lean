import FzServer.Proof.Utility.IniHistory
import FzServer.Proof.Utility.IniLines

/-
This file loads INI files of any text.
-/

namespace FzServer.Utility

open Foundation IniFile

/-- Every line does one of these. -/
inductive LineEffect
  | nothing
  | opens (name : List UInt8)
  | assigns (key : List UInt8) (value : Value)

/-- A header may lack its bracket, and a line without an equals sign is a key and its value. -/
def effectOf (line : List UInt8) : LineEffect :=
  match trim line with
  | [] => .nothing
  | first :: rest =>
      if first = 0x5B then .opens (trim (rest.takeWhile (· ≠ 0x5D)))
      else if 0x3D ∈ first :: rest then
        .assigns (trim ((first :: rest).takeWhile (· ≠ 0x3D)))
          ⟨trim (((first :: rest).dropWhile (· ≠ 0x3D)).drop 1)⟩
      else .assigns (trim (first :: rest)) ⟨trim (first :: rest)⟩

def LineEffect.apply (state : Loading) : LineEffect → Loading
  | .nothing => state
  | .opens name => ⟨name, state.m_sections.insert name .empty⟩
  | .assigns key value =>
      { state with m_sections := assign state.m_sections state.section_ key value }

def applyLines (state : Loading) (lines : List (List UInt8)) : Loading :=
  lines.foldl (fun before line => (effectOf line).apply before) state

section Lines

/-- A text that contains the character is cut at its first occurrence. -/
theorem cut_at {text : List UInt8} {character : UInt8} (member : character ∈ text) :
    ∃ front back, text = front ++ character :: back ∧ character ∉ front ∧
      text.takeWhile (· ≠ character) = front ∧
        (text.dropWhile (· ≠ character)).drop 1 = back := by
  obtain ⟨front, back, rfl, absent⟩ := List.eq_append_cons_of_mem member
  have passes : ∀ other ∈ front, decide (other ≠ character) = true := by
    intro other inside
    rw [decide_eq_true_iff]
    exact fun same => absent (same ▸ inside)
  refine ⟨front, back, rfl, absent, ?_, ?_⟩
  · rw [List.takeWhile_append_of_pos passes, List.takeWhile_cons_of_neg (by simp), List.append_nil]
  · rw [List.dropWhile_append_of_pos passes, List.dropWhile_cons_of_neg (by simp)]
    rfl

theorem findFirstOf_absent {text : List UInt8} {character : UInt8} (absent : character ∉ text) :
    findFirstOf text character = npos := by
  have missed : text.findIdx? (· = character) = none := by
    rw [List.findIdx?_eq_none_iff]
    exact fun other member => decide_eq_false fun same => absent (same ▸ member)
  rw [findFirstOf, missed, Option.getD_none]

/-- A search that fails gives minus one. -/
theorem intOf_npos : intOf npos = -1 := rfl

theorem loadHeader_effect (state : Loading) {rest : List UInt8}
    (short : rest.length < 2147483646) :
    loadHeader state (0x5B :: rest) =
      some ((LineEffect.opens (trim (rest.takeWhile (· ≠ 0x5D)))).apply state) := by
  have cut (size : Nat) : substr (0x5B :: rest) 1 size = some (rest.take size) := by
    rw [substr, if_neg (by simp)]
    rfl
  by_cases closed : 0x5D ∈ rest
  · obtain ⟨front, back, rfl, absent, name, _⟩ := cut_at closed
    rw [List.length_append] at short
    have place : findFirstOf (0x5B :: (front ++ 0x5D :: back)) 0x5D = front.length + 1 := by
      have missing : (0x5D : UInt8) ∉ 0x5B :: front := by simp [absent]
      exact findFirstOf_append missing
    have count : addInt ((front.length + 1 : Nat) : Int) (-1) = some (front.length : Int) := by
      have sum : ((front.length + 1 : Nat) : Int) + -1 = front.length := by omega
      rw [addInt_inside (by omega) (by omega), sum]
    have small : intOf (front.length + 1) = (front.length + 1 : Nat) :=
      intOf_small (by omega)
    simp only [loadHeader, place, small]
    rw [count, Option.bind_some, sizeT_small (by omega), cut, List.take_left, name]
    rfl
  · have open_ : (0x5D : UInt8) ∉ 0x5B :: rest := by simp [closed]
    have all : rest.takeWhile (· ≠ 0x5D) = rest := by
      rw [List.takeWhile_eq_self_iff]
      intro other member
      rw [decide_eq_true_iff]
      exact fun same => closed (same ▸ member)
    have count : addInt (-1) (-1) = some (-2) := rfl
    have size : sizeT (-2) = 0xFFFFFFFFFFFFFFFE := rfl
    simp only [loadHeader, findFirstOf_absent open_, intOf_npos, count, Option.bind_some, size]
    rw [cut, List.take_of_length_le (by omega), all]
    rfl

theorem loadAssignment_effect (state : Loading) {line : List UInt8}
    (short : line.length < 2147483647) :
    loadAssignment state line = some ((if 0x3D ∈ line then
      LineEffect.assigns (trim (line.takeWhile (· ≠ 0x3D)))
        ⟨trim ((line.dropWhile (· ≠ 0x3D)).drop 1)⟩
      else .assigns (trim line) ⟨trim line⟩).apply state) := by
  rw [loadAssignment_eq]
  split_ifs with sign
  · obtain ⟨front, back, rfl, absent, key, value⟩ := cut_at sign
    have near : front.length < 2147483647 := by
      rw [List.length_append] at short
      omega
    have fits : (front ++ 0x3D :: back).length ≤ maxSize := by
      rw [maxSize]
      omega
    rw [findFirstOf_append absent, readAt_short near fits, key, value]
    rfl
  · have next : addInt (-1) 1 = some 0 := rfl
    have whole (size : Nat) (covers : line.length ≤ size) : substr line 0 size = some line := by
      rw [substr, if_neg (Nat.not_lt_zero _), List.drop_zero, List.take_of_length_le covers]
    have far : sizeT (-1) = npos := rfl
    have start : sizeT 0 = 0 := rfl
    have rest : ((line.length : Int) - -1) = (line.length + 1 : Nat) := by omega
    rw [findFirstOf_absent sign, intOf_npos, readAt, far, next, rest, sizeT_small (by omega),
      whole npos (by rw [npos]; omega), Option.bind_some, Option.bind_some, start,
      whole _ (Nat.le_succ _)]
    rfl

/-- Every line that is not too long is read. -/
theorem loadLine_effect (state : Loading) {line : List UInt8}
    (short : line.length < 2147483647) :
    loadLine state line = some ((effectOf line).apply state) := by
  have trimmed := trim_length line
  rw [loadLine, effectOf]
  cases text : trim line with
  | nil => rfl
  | cons first rest =>
      rw [text, List.length_cons] at trimmed
      dsimp only
      split_ifs with header sign
      · rw [header]
        exact loadHeader_effect state (by omega)
      · rw [loadAssignment_effect state (by rw [List.length_cons]; omega), if_pos sign]
      · rw [loadAssignment_effect state (by rw [List.length_cons]; omega), if_neg sign]

/-- A text of such lines is loaded. -/
theorem loadLines_effect {lines : List (List UInt8)}
    (short : ∀ line ∈ lines, line.length < 2147483647) (state : Loading) :
    lines.foldlM loadLine state = some (applyLines state lines) := by
  induction lines generalizing state with
  | nil => rfl
  | cons line lines ih =>
      rw [List.forall_mem_cons] at short
      rw [List.foldlM_cons, loadLine_effect state short.1]
      exact ih short.2 _

end Lines

section Values

/-- The lines behind the effect stand in this section. -/
def LineEffect.leaves (above : List UInt8) : LineEffect → List UInt8
  | .opens name => name
  | _ => above

/-- Each effect is given with the section that it stands in. -/
def placeEffects (above : List UInt8) : List (List UInt8) → List (List UInt8 × LineEffect)
  | [] => []
  | line :: lines =>
      (above, effectOf line) :: placeEffects ((effectOf line).leaves above) lines

/-- The abstract map changes in this way. -/
def effectWrites (section_ key : List UInt8) (placed : List UInt8 × LineEffect) :
    Option (Option Value) :=
  match placed.2 with
  | .nothing => none
  | .opens name => if section_ = name then some none else none
  | .assigns other value => if section_ = placed.1 ∧ key = other then some (some value) else none

/-- Some line of the section assigns the value to the key, and behind it the key is not assigned
and the section is not opened again. -/
def Configures (lines : List (List UInt8)) (section_ key : List UInt8) (value : Value) : Prop :=
  ∃ front back, placeEffects [] lines = front ++ (section_, .assigns key value) :: back ∧
    ∀ other ∈ back, other.2 ≠ .opens section_ ∧ ∀ later, other ≠ (section_, .assigns key later)

variable {section_ key : List UInt8}

theorem effectWrites_some_iff {placed : List UInt8 × LineEffect} {value : Value} :
    effectWrites section_ key placed = some (some value) ↔
      placed = (section_, .assigns key value) := by
  obtain ⟨above, effect⟩ := placed
  cases effect with
  | nothing => simp [effectWrites]
  | opens name => simp [effectWrites]
  | assigns other given =>
      simp only [effectWrites, Option.ite_none_right_eq_some, Option.some.injEq, Prod.mk.injEq,
        LineEffect.assigns.injEq]
      constructor
      · rintro ⟨⟨rfl, rfl⟩, rfl⟩
        exact ⟨rfl, rfl, rfl⟩
      · rintro ⟨rfl, rfl, rfl⟩
        exact ⟨⟨rfl, rfl⟩, rfl⟩

theorem effectWrites_none_iff {placed : List UInt8 × LineEffect} :
    effectWrites section_ key placed = some none ↔ placed.2 = .opens section_ := by
  obtain ⟨above, effect⟩ := placed
  cases effect <;> simp [effectWrites, eq_comm]

theorem effectWrites_silent_iff {placed : List UInt8 × LineEffect} :
    effectWrites section_ key placed = none ↔
      placed.2 ≠ .opens section_ ∧ ∀ later, placed ≠ (section_, .assigns key later) := by
  rw [← not_iff_not, ← ne_eq, Option.ne_none_iff_exists', not_and_or, not_not, not_forall]
  constructor
  · rintro ⟨_ | value, wrote⟩
    · exact Or.inl (effectWrites_none_iff.mp wrote)
    · exact Or.inr ⟨value, not_not.mpr (effectWrites_some_iff.mp wrote)⟩
  · rintro (opened | ⟨value, assigned⟩)
    · exact ⟨none, effectWrites_none_iff.mpr opened⟩
    · exact ⟨some value, effectWrites_some_iff.mpr (not_not.mp assigned)⟩

theorem configures_iff {lines : List (List UInt8)} {value : Value} :
    Configures lines section_ key value ↔
      lastValue (effectWrites section_ key) (placeEffects [] lines) = some value := by
  rw [lastValue_eq_some_iff]
  constructor
  · rintro ⟨front, back, split, last⟩
    exact ⟨front, _, back, split, effectWrites_some_iff.mpr rfl,
      fun other member => effectWrites_silent_iff.mpr (last other member)⟩
  · rintro ⟨front, item, back, split, wrote, silent⟩
    obtain rfl := effectWrites_some_iff.mp wrote
    exact ⟨front, back, split, fun other member => effectWrites_silent_iff.mp (silent other member)⟩

theorem apply_lookup (effect : LineEffect) (state : Loading) :
    (effect.apply state).m_sections.lookup section_ key =
      (effectWrites section_ key (state.section_, effect)).getD
        (state.m_sections.lookup section_ key) := by
  cases effect with
  | nothing => rfl
  | opens name =>
      simp only [LineEffect.apply, effectWrites, SortedMap.lookup_insert_empty]
      split_ifs <;> rfl
  | assigns other value =>
      simp only [LineEffect.apply, effectWrites, assign_eq, SortedMap.lookup_put]
      split_ifs <;> rfl

/-- The loop writes a key as the placed lines do. -/
theorem applyLines_lookup (lines : List (List UInt8)) (state : Loading) :
    (applyLines state lines).m_sections.lookup section_ key =
      ((placeEffects state.section_ lines).filterMap (effectWrites section_ key)).getLast?.getD
        (state.m_sections.lookup section_ key) := by
  induction lines generalizing state with
  | nil => rfl
  | cons line lines ih =>
      have moves : ((effectOf line).apply state).section_ =
          (effectOf line).leaves state.section_ := by
        cases effectOf line <;> rfl
      change (applyLines ((effectOf line).apply state) lines).m_sections.lookup section_ key = _
      rw [ih, placeEffects, lastWrite_cons, moves, apply_lookup]

/-- Any text whose lines are not too long is loaded, and each key has the value that the text
configures. -/
theorem load_text (text filename : List UInt8)
    (short : ∀ line ∈ getlines text, line.length < 2147483647) :
    ∃ loaded, fresh.load filename (some text) = some (false, loaded) ∧ ∀ section_ key,
      loaded.m_sections.lookup section_ key =
        lastValue (effectWrites section_ key) (placeEffects [] (getlines text)) := by
  refine ⟨⟨filename, (applyLines ⟨[], .empty⟩ (getlines text)).m_sections⟩, ?_,
    fun section_ key => ?_⟩
  · change ((getlines text).foldlM loadLine ⟨[], .empty⟩).map _ = _
    rw [loadLines_effect short]
    rfl
  · rw [applyLines_lookup, SortedMap.lookup_empty, lastValue]
    cases ((placeEffects [] (getlines text)).filterMap (effectWrites section_ key)).getLast? <;> rfl

end Values

end FzServer.Utility
