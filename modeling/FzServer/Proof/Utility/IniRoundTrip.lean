import FzServer.Proof.Utility.IniLines

/-
This file loads a stored INI file again.
-/

namespace FzServer.Utility

open Foundation IniFile

/-- No name, key or value has a character that ends it, and trimming changes none of them. -/
structure Clean (ini : IniFile) : Prop where
  names : ∀ entry ∈ ini.m_sections.entries, 0x5D ∉ entry.1 ∧ 0x0A ∉ entry.1 ∧ Tidy entry.1
  keys : ∀ entry ∈ ini.m_sections.entries, ∀ pair ∈ entry.2.entries,
    0x3D ∉ pair.1 ∧ 0x0A ∉ pair.1 ∧ pair.1.head? ≠ some 0x5B ∧ Tidy pair.1
  values : ∀ entry ∈ ini.m_sections.entries, ∀ pair ∈ entry.2.entries,
    0x0A ∉ pair.2.m_value ∧ Tidy pair.2.m_value

/-- An `int` holds the position behind every name and every key. -/
def Short (ini : IniFile) : Prop :=
  ∀ entry ∈ ini.m_sections.entries, entry.1.length < 2147483647 ∧
    ∀ pair ∈ entry.2.entries, pair.1.length < 2147483646

instance (ini : IniFile) : Decidable (Short ini) :=
  inferInstanceAs (Decidable (∀ entry ∈ ini.m_sections.entries, _ ∧ ∀ pair ∈ entry.2.entries, _))

section Lines

def rawLine (pair : List UInt8 × Value) : List UInt8 := pair.1 ++ ascii " = " ++ pair.2.m_value

/-- A blank line ends each section. -/
def printedLines (entry : List UInt8 × Section) : List (List UInt8) :=
  headerLine entry.1 :: (entry.2.entries.map rawLine ++ [[]])

theorem sectionText_lines (entry : List UInt8 × Section) :
    sectionText entry = (printedLines entry).flatMap (· ++ [0x0A]) := by
  have pairs : entry.2.entries.flatMap assignmentText =
      (entry.2.entries.map rawLine).flatMap (· ++ [0x0A]) := by
    rw [List.flatMap_map]
    rfl
  rw [sectionText, pairs, printedLines, List.flatMap_cons, List.flatMap_append]
  simp [headerLine]

theorem getlines_lines (lines : List (List UInt8)) (unbroken : ∀ line ∈ lines, 0x0A ∉ line) :
    getlines (lines.flatMap (· ++ [0x0A])) = lines := by
  have pieces : (lines.flatMap (· ++ [0x0A])).splitOn 0x0A = lines ++ [[]] := by
    induction lines with
    | nil => rfl
    | cons line lines ih =>
        rw [List.flatMap_cons, List.append_assoc, List.singleton_append,
          List.splitOn_append_cons_self_of_not_mem (unbroken line List.mem_cons_self),
          ih fun other member => unbroken other (List.mem_cons_of_mem _ member)]
        rfl
  rw [getlines, pieces, List.getLast?_concat, List.dropLast_concat]
  exact if_pos rfl

theorem line_fits {lines : List (List UInt8)} {line : List UInt8} (member : line ∈ lines) :
    line.length ≤ (lines.flatMap (· ++ [0x0A])).length := by
  obtain ⟨front, back, rfl⟩ := List.append_of_mem member
  simp only [List.flatMap_append, List.flatMap_cons, List.length_append]
  omega

end Lines

section Load

/-- The loop reads this entry from the line of an assignment. -/
def readPair (pair : List UInt8 × Value) : Option (List UInt8 × Value) :=
  readAssignment pair.1 pair.2.m_value

/-- The loop reads this entry from the lines of a section. -/
def readSection (entry : List UInt8 × Section) : Option (List UInt8 × Section) :=
  (headerName entry.1).bind fun name =>
    (SortedMap.collect readPair entry.2.entries .empty).map fun pairs => (name, pairs)

theorem readSection_some {entry given : List UInt8 × Section}
    (read : readSection entry = some given) :
    headerName entry.1 = some given.1 ∧
      SortedMap.collect readPair entry.2.entries .empty = some given.2 := by
  obtain ⟨name, found, rest⟩ := Option.bind_eq_some_iff.mp read
  obtain ⟨pairs, collected, rfl⟩ := Option.map_eq_some_iff.mp rest
  exact ⟨found, collected⟩

/-- The assignments of a section join it one after another. -/
theorem loadLine_pairs (name : List UInt8) (sections : SortedMap (List UInt8) Section)
    (pairs : List (List UInt8 × Value))
    (keys : ∀ pair ∈ pairs, 0x3D ∉ pair.1 ∧ pair.1.head? ≠ some 0x5B ∧ Tidy pair.1)
    (values : ∀ pair ∈ pairs, Tidy pair.2.m_value) (current : Section) :
    (pairs.map rawLine).foldlM loadLine ⟨name, sections.insert name current⟩ =
      (SortedMap.collect readPair pairs current).map fun result =>
        ⟨name, sections.insert name result⟩ := by
  induction pairs generalizing current with
  | nil => rfl
  | cons pair pairs ih =>
      obtain ⟨plain, noHeader, tidyKey⟩ := keys pair List.mem_cons_self
      have next := ih (fun other member => keys other (List.mem_cons_of_mem _ member))
        fun other member => values other (List.mem_cons_of_mem _ member)
      rw [List.map_cons, List.foldlM_cons, SortedMap.collect_cons, rawLine,
        loadLine_assignment _ tidyKey (values pair List.mem_cons_self) plain noHeader, readPair]
      cases readAssignment pair.1 pair.2.m_value with
      | none => rfl
      | some entry =>
          change (pairs.map rawLine).foldlM loadLine
            ⟨name, assign (sections.insert name current) name entry.1 entry.2⟩ = _
          rw [assign, SortedMap.find_insert_self, Option.getD_some, SortedMap.insert_insert, next]
          rfl

variable {entry : List UInt8 × Section}

theorem loadLine_section (state : Loading) (name : 0x5D ∉ entry.1)
    (keys : ∀ pair ∈ entry.2.entries, 0x3D ∉ pair.1 ∧ pair.1.head? ≠ some 0x5B ∧ Tidy pair.1)
    (values : ∀ pair ∈ entry.2.entries, Tidy pair.2.m_value) :
    (printedLines entry).foldlM loadLine state =
      (readSection entry).map fun given =>
        ⟨given.1, state.m_sections.insert given.1 given.2⟩ := by
  rw [printedLines, List.foldlM_cons,
    loadLine_header state (trim_tidy (headerLine_tidy _)) name, readSection]
  cases headerName entry.1 with
  | none => rfl
  | some found =>
      change (entry.2.entries.map rawLine ++ [[]]).foldlM loadLine
        ⟨found, state.m_sections.insert found .empty⟩ = _
      rw [List.foldlM_append, loadLine_pairs found _ _ keys values, Option.bind_some]
      cases SortedMap.collect readPair entry.2.entries .empty with
      | none => rfl
      | some pairs => rfl

end Load

variable {ini : IniFile} {text : List UInt8}

/-- Loading a stored file collects what the loop reads from each section. -/
theorem load_collect (clean : Clean ini) (printed : ini.str = some text)
    (filename : List UInt8) :
    (fresh.load filename (some text)).map (fun loaded => loaded.2.m_sections) =
      SortedMap.collect readSection ini.m_sections.entries .empty := by
  obtain ⟨names, keys, values⟩ := clean
  have lines : text = (ini.m_sections.entries.flatMap printedLines).flatMap (· ++ [0x0A]) := by
    rw [str] at printed
    split_ifs at printed
    rw [← Option.some.inj printed, List.flatMap_assoc]
    exact List.flatMap_congr fun entry _ => sectionText_lines entry
  have unbroken : ∀ line ∈ ini.m_sections.entries.flatMap printedLines, 0x0A ∉ line := by
    intro line member
    obtain ⟨entry, inside, from_⟩ := List.mem_flatMap.mp member
    rcases List.mem_cons.mp from_ with rfl | later
    · simp [headerLine, (names entry inside).2.1]
    · rcases List.mem_append.mp later with assignment | blank
      · obtain ⟨pair, given, rfl⟩ := List.mem_map.mp assignment
        have sign : ascii " = " = [0x20, 0x3D, 0x20] := by decide
        simp [rawLine, sign, (keys entry inside pair given).2.1, (values entry inside pair given).1]
      · rw [List.mem_singleton.mp blank]
        exact List.not_mem_nil
  have sections (entries : List (List UInt8 × Section))
      (subset : ∀ entry ∈ entries, entry ∈ ini.m_sections.entries) (state : Loading) :
      ((entries.flatMap printedLines).foldlM loadLine state).map Loading.m_sections =
        SortedMap.collect readSection entries state.m_sections := by
    induction entries generalizing state with
    | nil => rfl
    | cons entry entries ih =>
        have inside := subset entry List.mem_cons_self
        rw [List.flatMap_cons, List.foldlM_append, SortedMap.collect_cons,
          loadLine_section state (names entry inside).1
            (fun pair member => ⟨(keys entry inside pair member).1,
              (keys entry inside pair member).2.2⟩)
            fun pair member => (values entry inside pair member).2]
        cases readSection entry with
        | none => rfl
        | some given =>
            exact ih (fun other member => subset other (List.mem_cons_of_mem _ member)) _
  rw [load, lines, getlines_lines _ unbroken, Option.map_map]
  exact sections _ (fun _ member => member) _

theorem printed_fits (printed : ini.str = some text) {entry : List UInt8 × Section}
    (inside : entry ∈ ini.m_sections.entries) :
    (headerLine entry.1).length ≤ maxSize ∧
      ∀ pair ∈ entry.2.entries, (rawLine pair).length ≤ maxSize := by
  have bound (line : List UInt8) (member : line ∈ printedLines entry) : line.length ≤ maxSize := by
    rw [str] at printed
    split_ifs at printed with fits
    refine Nat.le_trans (line_fits member) (Nat.le_trans ?_ fits)
    obtain ⟨front, back, split⟩ := List.append_of_mem inside
    rw [← sectionText_lines, split, List.flatMap_append, List.flatMap_cons, List.length_append,
      List.length_append]
    omega
  refine ⟨bound _ List.mem_cons_self, fun pair member => bound _ ?_⟩
  exact List.mem_cons_of_mem _ (List.mem_append_left _ (List.mem_map_of_mem member))

/-- Exactly the short names and keys are read back. -/
theorem collect_iff_short (clean : Clean ini) (printed : ini.str = some text) :
    SortedMap.collect readSection ini.m_sections.entries .empty = some ini.m_sections ↔
      Short ini := by
  obtain ⟨names, keys, values⟩ := clean
  have trimmed {entry : List UInt8 × Section} (inside : entry ∈ ini.m_sections.entries)
      {pair : List UInt8 × Value} (member : pair ∈ entry.2.entries) :
      (assignmentLine pair.1 pair.2.m_value).length ≤ maxSize := by
    rw [← trim_assignment (keys entry inside pair member).2.2.2 (values entry inside pair member).2]
    exact Nat.le_trans (trim_length _) ((printed_fits printed inside).2 pair member)
  have paired {entry : List UInt8 × Section} (inside : entry ∈ ini.m_sections.entries)
      {pair : List UInt8 × Value} (member : pair ∈ entry.2.entries)
      (short : pair.1.length < 2147483646) : readPair pair = some pair :=
    readAssignment_short (keys entry inside pair member).2.2.2 (values entry inside pair member).2
      short (trimmed inside member)
  constructor
  case mp =>
      intro fixed
      have same {entry given : List UInt8 × Section} (inside : entry ∈ ini.m_sections.entries)
          (short : ¬2147483647 ≤ entry.1.length) (read : readSection entry = some given) :
          given.1 = entry.1 := by
        have found := (readSection_some read).1
        rw [headerName_short (Nat.lt_of_not_le short), trim_tidy (names entry inside).2.2] at found
        exact (Option.some.inj found).symm
      have named : ∀ entry ∈ ini.m_sections.entries, ¬2147483647 ≤ entry.1.length := by
        apply SortedMap.collect_fixed fixed (fun name => 2147483647 ≤ name.length) List.length
        · exact fun entry inside short given read => same inside short read
        · intro entry inside long given read there
          rcases headerName_range (printed_fits printed inside).1 (readSection_some read).1
            with bracket | shorter
          · exact absurd bracket (names _ there).1
          · exact Nat.lt_of_lt_of_le shorter long
      have kept := SortedMap.collect_kept fixed
        fun entry inside given read => same inside (named entry inside) read
      intro entry inside
      refine ⟨Nat.lt_of_not_le (named entry inside), fun pair member => Nat.lt_of_not_le ?_⟩
      have collected := (readSection_some (kept entry inside)).2
      refine SortedMap.collect_fixed collected (fun key => 2147483646 ≤ key.length) List.length
        ?_ ?_ pair member
      · intro other from_ short given read
        rw [paired inside from_ (Nat.lt_of_not_le short)] at read
        rw [← Option.some.inj read]
      · intro other from_ long given read there
        rcases readAssignment_long long (trimmed inside from_) read with sign | shorter
        · exact absurd sign (keys entry inside given there).1
        · exact shorter
  case mpr =>
      intro short
      apply SortedMap.collect_entries
      intro entry inside
      have pairs : SortedMap.collect readPair entry.2.entries .empty = some entry.2 :=
        SortedMap.collect_entries _ fun pair member =>
          paired inside member ((short entry inside).2 pair member)
      rw [readSection, headerName_short (short entry inside).1, trim_tidy (names entry inside).2.2,
        Option.bind_some, pairs, Option.map_some]

/-- Saving writes the printed text. -/
theorem save_opened (ini : IniFile) : ini.save true = ini.str.map fun text => (true, some text) :=
  if_neg (by decide)

/-- A clean file is loaded as it was stored exactly when its names and keys are short. -/
theorem load_str_iff (clean : Clean ini)
    (printed : ini.str = some text ∨ ini.save true = some (true, some text))
    (filename : List UInt8) :
    (∃ loaded, fresh.load filename (some text) = some loaded ∧
      loaded.2.m_sections = ini.m_sections) ↔ Short ini := by
  have stored : ini.str = some text := by
    rcases printed with shown | saved
    · exact shown
    · rw [save_opened, Option.map_eq_some_iff] at saved
      obtain ⟨other, shown, same⟩ := saved
      rw [shown, Option.some.inj (congrArg Prod.snd same)]
  rw [← collect_iff_short clean stored, ← load_collect clean stored filename,
    Option.map_eq_some_iff]

def mixedIni : IniFile :=
  ((fresh.set [] (ascii "path") ⟨ascii "a=[b]"⟩).set (ascii "log") [] ⟨[]⟩).set (ascii "log")
    (ascii "max") ⟨ascii "10 20"⟩

theorem load_str_iff_mixed : ∃ loaded,
    fresh.load (ascii "main.ini")
      (some (ascii "[]\npath = a=[b]\n\n[log]\n = \nmax = 10 20\n\n")) = some loaded ∧
        loaded.2.m_sections = mixedIni.m_sections :=
  (load_str_iff ⟨by decide +kernel, by decide +kernel, by decide +kernel⟩
    (Or.inl (by decide +kernel)) (ascii "main.ini")).mpr (by decide +kernel)

/-- A single section has a name of this length. -/
def longNamed (count : Nat) : IniFile :=
  ⟨[], SortedMap.insert .empty (List.replicate count 0x61) .empty⟩

theorem longNamed_entries (count : Nat) :
    (longNamed count).m_sections.entries = [(List.replicate count 0x61, .empty)] := rfl

theorem longNamed_clean (count : Nat) : Clean (longNamed count) := by
  have letters : ∀ character ∈ List.replicate count (0x61 : UInt8), character = 0x61 :=
    fun character member => List.eq_of_mem_replicate member
  constructor
  · intro entry member
    rw [longNamed_entries, List.mem_singleton] at member
    subst member
    refine ⟨fun bracket => absurd (letters _ bracket) (by decide),
      fun feed => absurd (letters _ feed) (by decide), fun character first => ?_,
      fun character last => ?_⟩
    · rw [letters character (List.mem_of_mem_head? first)]
      rfl
    · rw [letters character (List.mem_of_getLast? last)]
      rfl
  · intro entry member pair inside
    rw [longNamed_entries, List.mem_singleton] at member
    subst member
    exact nomatch inside
  · intro entry member pair inside
    rw [longNamed_entries, List.mem_singleton] at member
    subst member
    exact nomatch inside

theorem longNamed_printed {count : Nat} (fits : count + 4 ≤ maxSize) :
    (longNamed count).str = some (sectionText (List.replicate count 0x61, .empty)) := by
  have size : (sectionText (List.replicate count 0x61, .empty)).length = count + 4 := by
    simp [sectionText, SortedMap.empty]
  rw [str, longNamed_entries, List.flatMap_singleton]
  apply if_pos
  rw [size]
  exact fits

/-- The position of the bracket behind such a name is no `int`. -/
theorem load_str_fails : Clean (longNamed 2147483648) ∧
    ∃ text, (longNamed 2147483648).str = some text ∧
      ∀ filename, ¬∃ loaded, fresh.load filename (some text) = some loaded ∧
        loaded.2.m_sections = (longNamed 2147483648).m_sections := by
  have clean := longNamed_clean 2147483648
  have printed := @longNamed_printed 2147483648 (by decide)
  refine ⟨clean, _, printed, fun filename loaded => ?_⟩
  rw [← Option.map_eq_some_iff, load_collect clean printed filename,
    collect_iff_short clean printed] at loaded
  have short := (loaded _ (longNamed_entries _ ▸ List.mem_cons_self)).1
  rw [List.length_replicate] at short
  exact absurd short (by decide)

end FzServer.Utility
