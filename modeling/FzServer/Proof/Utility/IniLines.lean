import FzServer.Construction.Utility.IniFile

/-
This file reads single lines of an INI file.
-/

namespace FzServer.Utility

open Foundation IniFile

/-- Trimming such a text changes nothing. -/
def Tidy (text : List UInt8) : Prop :=
  (∀ character ∈ text.head?, isBlank character = false) ∧
    ∀ character ∈ text.getLast?, isBlank character = false

instance (text : List UInt8) : Decidable (Tidy text) := inferInstanceAs (Decidable (_ ∧ _))

section Trim

theorem dropWhile_tidy {text : List UInt8}
    (tidy : ∀ character ∈ text.head?, isBlank character = false) :
    text.dropWhile isBlank = text := by
  cases text with
  | nil => rfl
  | cons character text =>
      rw [List.dropWhile_cons_of_neg]
      rw [tidy character rfl]
      exact Bool.false_ne_true

theorem rdropWhile_tidy {text : List UInt8}
    (tidy : ∀ character ∈ text.getLast?, isBlank character = false) :
    text.rdropWhile isBlank = text := by
  rw [List.rdropWhile, dropWhile_tidy, List.reverse_reverse]
  rwa [List.head?_reverse]

theorem trim_tidy {text : List UInt8} (tidy : Tidy text) : trim text = text := by
  rw [trim, dropWhile_tidy tidy.1, rdropWhile_tidy tidy.2]

/-- Blanks on both sides of a tidy text go away. -/
theorem trim_blanks (front back : List UInt8) {text : List UInt8} (tidy : Tidy text)
    (nonempty : text ≠ []) (before : ∀ character ∈ front, isBlank character = true)
    (behind : ∀ character ∈ back, isBlank character = true) :
    trim (front ++ (text ++ back)) = text := by
  have start : (text ++ back).dropWhile isBlank = text ++ back := by
    apply dropWhile_tidy
    rw [List.head?_append_of_ne_nil _ nonempty]
    exact tidy.1
  have stop : (text ++ back).rdropWhile isBlank = text := by
    rw [List.rdropWhile, List.reverse_append, List.dropWhile_append_of_pos (by simpa using behind),
      ← List.rdropWhile, rdropWhile_tidy tidy.2]
  rw [trim, List.dropWhile_append_of_pos before, start, stop]

/-- Trimming keeps every character that is no blank. -/
theorem mem_trim {text : List UInt8} {character : UInt8} (member : character ∈ text)
    (solid : isBlank character = false) : character ∈ trim text := by
  have keeps {text : List UInt8} (member : character ∈ text) :
      character ∈ text.dropWhile isBlank := by
    rw [← List.takeWhile_append_dropWhile (p := isBlank) (l := text), List.mem_append] at member
    rcases member with inside | behind
    · have blank := List.mem_takeWhile_imp inside
      rw [solid] at blank
      exact absurd blank Bool.false_ne_true
    · exact behind
  rw [trim, List.rdropWhile, List.mem_reverse]
  exact keeps (List.mem_reverse.mpr (keeps member))

theorem trim_sublist (text : List UInt8) : (trim text).Sublist text := by
  have back := List.dropWhile_sublist isBlank (l := (text.dropWhile isBlank).reverse)
  rw [← List.reverse_sublist, List.reverse_reverse] at back
  exact back.trans (List.dropWhile_sublist isBlank)

/-- Trimming makes no text longer. -/
theorem trim_length (text : List UInt8) : (trim text).length ≤ text.length :=
  (trim_sublist text).length_le

end Trim

section Sizes

theorem intOf_range (position : Nat) :
    -0x80000000 ≤ intOf position ∧ intOf position < 0x80000000 := by
  have lower := Int.le_bmod (x := position) (m := 0x100000000) (by omega)
  have upper := Int.bmod_lt (x := position) (m := 0x100000000) (by omega)
  unfold intOf
  omega

theorem intOf_small {position : Nat} (small : position < 0x80000000) :
    intOf position = position := by
  apply Int.bmod_eq_of_le
  · omega
  · omega

theorem sizeT_small {size : Nat} (small : size < 0x10000000000000000) :
    sizeT (size : Int) = size := by
  rw [sizeT]
  omega

/-- A negative number is behind every string. -/
theorem sizeT_negative {value : Int} (negative : value < 0) (range : -0x100000000 ≤ value) :
    maxSize < sizeT value := by
  rw [sizeT, maxSize]
  omega

theorem addInt_inside {first second : Int} (lower : -0x80000000 ≤ first + second)
    (upper : first + second < 0x80000000) : addInt first second = some (first + second) :=
  if_pos ⟨lower, upper⟩

/-- A defined sum is the sum. -/
theorem addInt_defined {first second sum : Int} (defined : addInt first second = some sum) :
    sum = first + second ∧ first + second < 0x80000000 := by
  rw [addInt] at defined
  split_ifs at defined with inside
  exact ⟨(Option.some.inj defined).symm, inside.2⟩

theorem findFirstOf_append {front back : List UInt8} {character : UInt8}
    (absent : character ∉ front) :
    findFirstOf (front ++ character :: back) character = front.length := by
  have missed : front.findIdx? (· = character) = none := by
    rw [List.findIdx?_eq_none_iff]
    exact fun other member => decide_eq_false fun same => absent (same ▸ member)
  rw [findFirstOf, List.findIdx?_append, missed, List.findIdx?_cons]
  simp

end Sizes

section Header

/-- This is the line of a section. -/
def headerLine (name : List UInt8) : List UInt8 := 0x5B :: (name ++ [0x5D])

/-- The loop takes this for the name of the section. -/
def headerName (name : List UInt8) : Option (List UInt8) :=
  (addInt (intOf (name.length + 1)) (-1)).bind fun count =>
    (substr (headerLine name) 1 (sizeT count)).map trim

variable {name : List UInt8}

theorem headerLine_tidy (name : List UInt8) : Tidy (headerLine name) := by
  constructor
  · intro character first
    obtain rfl := Option.some.inj first
    rfl
  · intro character last
    rw [headerLine, ← List.cons_append, List.getLast?_append, List.getLast?_singleton] at last
    obtain rfl := Option.some.inj last
    rfl

/-- A line that is a header between its blanks opens a fresh section. -/
theorem loadLine_header (state : Loading) {line : List UInt8} (stands : trim line = headerLine name)
    (plain : 0x5D ∉ name) :
    loadLine state line =
      (headerName name).map fun found => ⟨found, state.m_sections.insert found .empty⟩ := by
  have place : findFirstOf (headerLine name) 0x5D = name.length + 1 := by
    have absent : (0x5D : UInt8) ∉ 0x5B :: name := by simp [plain]
    exact findFirstOf_append absent
  rw [loadLine, stands, headerLine]
  change loadHeader state (headerLine name) = _
  rw [loadHeader, place, headerName]
  cases addInt (intOf (name.length + 1)) (-1) with
  | none => rfl
  | some count =>
      rw [Option.bind_some, Option.bind_some, Option.map_map]
      rfl

/-- A short name is read without its blanks. -/
theorem headerName_short (short : name.length < 2147483647) :
    headerName name = some (trim name) := by
  have position : intOf (name.length + 1) = (name.length : Int) + 1 :=
    intOf_small (by omega)
  have count : addInt (intOf (name.length + 1)) (-1) = some (name.length : Int) := by
    have sum : (name.length : Int) + 1 + -1 = name.length := by omega
    rw [position, addInt_inside (by omega) (by omega), sum]
  have text : (headerLine name).drop 1 = name ++ [0x5D] := rfl
  have inside : ¬(headerLine name).length < 1 := by simp [headerLine]
  rw [headerName, count, Option.bind_some, substr, if_neg inside, Option.map_some, text,
    sizeT_small (by omega), List.take_left]

/-- No long name is read, unless it takes the bracket. -/
theorem headerName_range {found : List UInt8} (fits : (headerLine name).length ≤ maxSize)
    (read : headerName name = some found) : 0x5D ∈ found ∨ found.length < 2147483647 := by
  obtain ⟨count, defined, given⟩ := Option.bind_eq_some_iff.mp read
  obtain ⟨text, part, rfl⟩ := Option.map_eq_some_iff.mp given
  obtain ⟨sum, below⟩ := addInt_defined defined
  have range := intOf_range (name.length + 1)
  have inside : ¬(headerLine name).length < 1 := by simp [headerLine]
  have cut : (name ++ [0x5D]).take (sizeT count) = text := by
    rw [substr, if_neg inside] at part
    exact Option.some.inj part
  by_cases negative : count < 0
  · have behind := sizeT_negative negative (by omega)
    have whole : text = name ++ [0x5D] := by
      rw [← cut]
      apply List.take_of_length_le
      rw [headerLine, List.length_cons] at fits
      omega
    refine Or.inl (mem_trim ?_ (by decide))
    simp [whole]
  · have size : (sizeT count : Int) = count := by
      rw [sizeT]
      omega
    have shorter : text.length ≤ sizeT count := by
      rw [← cut]
      exact List.length_take_le _ _
    have trimmed := trim_length text
    right
    omega

end Header

section Assignment

/-- The loop reads this entry when the search for the equals sign gives this number. -/
def readAt (line : List UInt8) (pos : Int) : Option (List UInt8 × Value) :=
  (substr line 0 (sizeT pos)).bind fun front =>
    (addInt pos 1).bind fun start =>
      (substr line (sizeT start) (sizeT ((line.length : Int) - pos))).map fun back =>
        (trim front, ⟨trim back⟩)

theorem loadAssignment_eq (state : Loading) (line : List UInt8) :
    loadAssignment state line = (readAt line (intOf (findFirstOf line 0x3D))).map fun entry =>
      { state with m_sections := assign state.m_sections state.section_ entry.1 entry.2 } := by
  rw [loadAssignment, readAt, Option.map_bind]
  refine Option.bind_congr fun key _ => ?_
  rw [Function.comp_apply, Option.map_bind]
  refine Option.bind_congr fun start _ => ?_
  rw [Function.comp_apply, Option.map_map]
  rfl

variable {front back : List UInt8}

/-- A line that is an assignment between its blanks joins the current section. -/
theorem loadLine_sign (state : Loading) {line : List UInt8}
    (stands : trim line = front ++ 0x3D :: back) (plain : 0x3D ∉ front)
    (noHeader : front.head? ≠ some 0x5B) :
    loadLine state line =
      (readAt (front ++ 0x3D :: back) (intOf front.length)).map fun entry =>
        { state with m_sections := assign state.m_sections state.section_ entry.1 entry.2 } := by
  rw [← findFirstOf_append plain, ← loadAssignment_eq, loadLine, stands]
  cases front with
  | nil => rfl
  | cons first front =>
      have other : first ≠ 0x5B := fun same => noHeader (congrArg some same)
      exact if_neg other

/-- An assignment whose equals sign stands near its start is read without its blanks. -/
theorem readAt_short (short : front.length < 2147483647)
    (fits : (front ++ 0x3D :: back).length ≤ maxSize) :
    readAt (front ++ 0x3D :: back) (intOf front.length) = some (trim front, ⟨trim back⟩) := by
  have length : (front ++ 0x3D :: back).length = front.length + (back.length + 1) := by
    rw [List.length_append, List.length_cons]
  rw [maxSize] at fits
  have next : addInt (front.length : Int) 1 = some ((front.length + 1 : Nat) : Int) :=
    addInt_inside (by omega) (by omega)
  have rest : ((front ++ 0x3D :: back).length : Int) - front.length =
      (back.length + 1 : Nat) := by omega
  have before : substr (front ++ 0x3D :: back) 0 front.length = some front := by
    rw [substr, if_neg (Nat.not_lt_zero _), List.drop_zero, List.take_left]
  have behind : substr (front ++ 0x3D :: back) (front.length + 1) (back.length + 1) =
      some back := by
    have drop : (front ++ 0x3D :: back).drop (front.length + 1) = back := by
      rw [← List.drop_drop, List.drop_left]
      rfl
    rw [substr, if_neg (by omega), drop, List.take_of_length_le (Nat.le_succ _)]
  simp only [readAt, intOf_small (Nat.lt_succ_of_lt short), rest, next, Option.bind_some]
  rw [sizeT_small (by omega), sizeT_small (by omega), sizeT_small (by omega), before, behind]
  rfl

/-- No long key is read, unless it takes the equals sign. -/
theorem readAt_range {given : List UInt8 × Value} (fits : (front ++ 0x3D :: back).length ≤ maxSize)
    (read : readAt (front ++ 0x3D :: back) (intOf front.length) = some given) :
    0x3D ∈ given.1 ∨ given.1.length < 2147483647 := by
  simp only [readAt, Option.bind_eq_some_iff, Option.map_eq_some_iff] at read
  obtain ⟨text, cut, start, defined, rest, _, rfl⟩ := read
  obtain ⟨_, below⟩ := addInt_defined defined
  have range := intOf_range front.length
  generalize intOf front.length = pos at *
  rw [substr, if_neg (Nat.not_lt_zero _), List.drop_zero] at cut
  obtain rfl := Option.some.inj cut
  by_cases negative : pos < 0
  · have behind := sizeT_negative negative (by omega)
    rw [List.take_of_length_le (fits.trans behind.le)]
    refine Or.inl (mem_trim ?_ (by decide))
    exact List.mem_append_right _ List.mem_cons_self
  · have size : (sizeT pos : Int) = pos := by
      unfold sizeT
      omega
    have taken := List.length_take_le (sizeT pos) (front ++ 0x3D :: back)
    have trimmed := trim_length ((front ++ 0x3D :: back).take (sizeT pos))
    refine Or.inr (Nat.lt_of_le_of_lt (trimmed.trans taken) ?_)
    omega

/-- The position behind such an equals sign is no `int`. -/
theorem readAt_edge (edge : front.length = 2147483647) :
    readAt (front ++ 0x3D :: back) (intOf front.length) = none := by
  have next : addInt (intOf front.length) 1 = none := by
    rw [edge]
    rfl
  rw [readAt, next]
  cases substr (front ++ 0x3D :: back) 0 (sizeT (intOf front.length)) <;> rfl

variable {key value : List UInt8}

/-- These characters stand before the equals sign of a trimmed line. -/
def beforeSign (key : List UInt8) : List UInt8 := if key = [] then [] else key ++ [0x20]

/-- These characters stand behind it. -/
def behindSign (value : List UInt8) : List UInt8 := if value = [] then [] else 0x20 :: value

/-- This is what trimming leaves of the line of an assignment. -/
def assignmentLine (key value : List UInt8) : List UInt8 :=
  beforeSign key ++ 0x3D :: behindSign value

def readAssignment (key value : List UInt8) : Option (List UInt8 × Value) :=
  readAt (assignmentLine key value) (intOf (beforeSign key).length)

theorem beforeSign_length (key : List UInt8) :
    key.length ≤ (beforeSign key).length ∧ (beforeSign key).length ≤ key.length + 1 := by
  rw [beforeSign]
  split_ifs with empty
  · simp [empty]
  · simp

theorem trim_beforeSign (tidy : Tidy key) : trim (beforeSign key) = key := by
  rw [beforeSign]
  split_ifs with empty
  · rw [empty]
    rfl
  · exact trim_blanks [] [0x20] tidy empty (by simp) (by simp [isBlank])

theorem trim_behindSign (tidy : Tidy value) : trim (behindSign value) = value := by
  rw [behindSign]
  split_ifs with empty
  · rw [empty]
    rfl
  · have bare := trim_blanks [0x20] [] tidy empty (by simp [isBlank]) (by simp)
    rwa [List.append_nil] at bare

theorem assignmentLine_tidy (tidyKey : Tidy key) (tidyValue : Tidy value) :
    Tidy (assignmentLine key value) := by
  constructor
  · intro character first
    cases key with
    | nil =>
        obtain rfl := Option.some.inj first
        rfl
    | cons start key => exact tidyKey.1 character first
  · intro character last
    rw [assignmentLine, List.getLast?_append, List.getLast?_cons] at last
    obtain rfl := Option.some.inj last
    cases value with
    | nil => rfl
    | cons start value => exact tidyValue.2 _ (by simp [behindSign, List.getLast?_cons])

theorem trim_assignment (tidyKey : Tidy key) (tidyValue : Tidy value) :
    trim (key ++ ascii " = " ++ value) = assignmentLine key value := by
  have sign : ascii " = " = [0x20, 0x3D, 0x20] := by decide
  have front : ∃ blanks, (∀ character ∈ blanks, isBlank character = true) ∧
      key ++ [0x20] = blanks ++ beforeSign key := by
    rw [beforeSign]
    split_ifs with empty
    · exact ⟨[0x20], by simp [isBlank], by simp [empty]⟩
    · exact ⟨[], by simp, rfl⟩
  have back : ∃ blanks, (∀ character ∈ blanks, isBlank character = true) ∧
      0x20 :: value = behindSign value ++ blanks := by
    rw [behindSign]
    split_ifs with empty
    · exact ⟨[0x20], by simp [isBlank], by simp [empty]⟩
    · exact ⟨[], by simp, (List.append_nil _).symm⟩
  obtain ⟨leading, leads, start⟩ := front
  obtain ⟨trailing, trails, stop⟩ := back
  have line : key ++ ascii " = " ++ value =
      leading ++ (assignmentLine key value ++ trailing) := by
    calc key ++ ascii " = " ++ value
      _ = (key ++ [0x20]) ++ 0x3D :: (0x20 :: value) := by simp [sign]
      _ = leading ++ (assignmentLine key value ++ trailing) := by
        rw [start, stop, assignmentLine]
        simp
  rw [line]
  exact trim_blanks leading trailing (assignmentLine_tidy tidyKey tidyValue)
    (List.append_ne_nil_of_right_ne_nil _ (List.cons_ne_nil _ _)) leads trails

theorem loadLine_assignment (state : Loading) (tidyKey : Tidy key) (tidyValue : Tidy value)
    (plain : 0x3D ∉ key) (noHeader : key.head? ≠ some 0x5B) :
    loadLine state (key ++ ascii " = " ++ value) =
      (readAssignment key value).map fun entry =>
        { state with m_sections := assign state.m_sections state.section_ entry.1 entry.2 } := by
  have stands := trim_assignment tidyKey tidyValue
  rw [assignmentLine] at stands
  apply loadLine_sign state stands
  · rw [beforeSign]
    split_ifs with empty
    · exact List.not_mem_nil
    · simp [plain]
  · cases key with
    | nil => exact fun first => nomatch first
    | cons first key => exact noHeader

/-- An assignment with a short key is read back. -/
theorem readAssignment_short (tidyKey : Tidy key) (tidyValue : Tidy value)
    (short : key.length < 2147483646) (fits : (assignmentLine key value).length ≤ maxSize) :
    readAssignment key value = some (key, ⟨value⟩) := by
  obtain ⟨_, bound⟩ := beforeSign_length key
  rw [readAssignment, assignmentLine, readAt_short (by omega) fits, trim_beforeSign tidyKey,
    trim_behindSign tidyValue]

/-- A long key is cut, or it takes the equals sign. -/
theorem readAssignment_long {given : List UInt8 × Value} (long : 2147483646 ≤ key.length)
    (fits : (assignmentLine key value).length ≤ maxSize)
    (read : readAssignment key value = some given) :
    0x3D ∈ given.1 ∨ given.1.length < key.length := by
  have nonempty : key ≠ [] := List.ne_nil_of_length_pos (by omega)
  have filled : beforeSign key = key ++ [0x20] := if_neg nonempty
  have length : (beforeSign key).length = key.length + 1 := by
    rw [filled, List.length_append, List.length_singleton]
  have farther : (beforeSign key).length ≠ 2147483647 := by
    intro edge
    rw [readAssignment, assignmentLine, readAt_edge edge] at read
    exact nomatch read
  refine (readAt_range fits read).imp_right fun shorter => ?_
  omega

end Assignment

end FzServer.Utility
