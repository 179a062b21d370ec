import FzServer.Construction.Utility.IniValue
import FzServer.Proof.Utility.IniHistory
import FzServer.Proof.Utility.IniRoundTrip
import FzServer.Foundation.Decimal

/-
This file reads typed settings back from a saved INI file.
-/

namespace FzServer.Utility

open Foundation IniFile

section Values

/-- Digits and a sign are no zero byte. -/
theorem decimal_solid (value : Int) : 0 ∉ decimal value := by
  intro zero
  rcases decimal_mem zero with sign | digit
  · exact absurd sign (by decide)
  · exact absurd digit (by decide)

/-- An `int` that fits is stored as it is. -/
theorem storeInt_int32 (value : Int32) : Int32.ofInt (storeInt value.toInt) = value := by
  have lower := value.le_toInt
  have upper := value.toInt_lt
  have kept : storeInt value.toInt = value.toInt := by
    rw [storeInt, if_neg (by omega), if_neg (by omega)]
    exact Int.bmod_eq_of_le (by omega) (by omega)
  rw [kept, Int32.ofInt_toInt]

/-- A number is read as it was set. -/
theorem toInt_ofInt (value : Int32) : (Value.ofInt value).toInt = value := by
  have whole := cstring_append (decimal_solid value.toInt) []
  rw [List.append_nil, show cstring [] = [] from rfl, List.append_nil] at whole
  rw [Value.toInt, Value.ofInt, whole, scanInt_eq, scanNumber_decimal, Option.map_some,
    Option.getD_some, storeInt_int32]

theorem toBool_ofBool (value : Bool) : (Value.ofBool value).toBool = value := by
  cases value <;> decide

/-- Every setting is read from its own value. -/
theorem readFrom_value (setting : Setting) : setting.ReadFrom setting.value := by
  cases setting with
  | bool value => exact toBool_ofBool value
  | int value => exact toInt_ofInt value
  | chars memory => rfl
  | string value => rfl

end Values

section Clean

/-- A header line with this name is read back. -/
structure CleanName (name : List UInt8) : Prop where
  closed : 0x5D ∉ name
  unbroken : 0x0A ∉ name
  tidy : Tidy name
  short : name.length < 2147483647

/-- The line of an assignment with this key is read back. -/
structure CleanKey (key : List UInt8) : Prop where
  plain : 0x3D ∉ key
  unbroken : 0x0A ∉ key
  noHeader : key.head? ≠ some 0x5B
  tidy : Tidy key
  short : key.length < 2147483646

structure CleanValue (value : Value) : Prop where
  unbroken : 0x0A ∉ value.m_value
  tidy : Tidy value.m_value

/-- The call names and stores only texts that a line can carry. -/
def IniCall.Clean : IniCall → Prop
  | .set section_ key value => CleanName section_ ∧ CleanKey key ∧ CleanValue value
  | .get section_ key => CleanName section_ ∧ CleanKey key
  | _ => True

/-- Everything in the section can be read back. -/
def CleanSection (pairs : Section) : Prop :=
  ∀ pair ∈ pairs.entries, CleanKey pair.1 ∧ CleanValue pair.2

/-- Everything in the sections can be read back. -/
def CleanSections (sections : SortedMap (List UInt8) Section) : Prop :=
  ∀ entry ∈ sections.entries, CleanName entry.1 ∧ CleanSection entry.2

theorem CleanValue.empty : CleanValue ⟨[]⟩ := ⟨by simp, by simp [Tidy]⟩

/-- Printed numbers and flags fit on a line. -/
theorem CleanValue.bool (value : Bool) : CleanValue (.ofBool value) := by
  cases value <;> exact ⟨by decide, by decide +kernel⟩

theorem CleanValue.int (value : Int32) : CleanValue (.ofInt value) := by
  have solid {character : UInt8} (member : character ∈ decimal value.toInt) :
      isBlank character = false ∧ character ≠ 0x0A := by
    rcases decimal_mem member with rfl | digit
    · decide
    · have feed : isBlank 0x0A = true := rfl
      simp only [isdigit, isBlank, decide_eq_true_eq, decide_eq_false_iff_not,
        UInt8.le_iff_toNat_le, ← UInt8.toNat_inj, UInt8.reduceToNat, ne_eq] at digit ⊢
      omega
  refine ⟨fun feed => (solid feed).2 rfl, fun character first => ?_, fun character last => ?_⟩
  · exact (solid (List.mem_of_mem_head? first)).1
  · exact (solid (List.mem_of_getLast? last)).1

theorem CleanSection.empty : CleanSection .empty := fun _ impossible => nomatch impossible

theorem CleanSections.empty : CleanSections .empty := fun _ impossible => nomatch impossible

variable {sections : SortedMap (List UInt8) Section} {pairs : Section}
  {section_ key : List UInt8} {value : Value}

theorem CleanSection.insert (clean : CleanSection pairs) (name : CleanKey key)
    (plain : CleanValue value) : CleanSection (pairs.insert key value) := by
  intro pair member
  rcases mem_insertEntry member with rfl | inside
  · exact ⟨name, plain⟩
  · exact clean pair inside

theorem CleanSection.erase (clean : CleanSection pairs) : CleanSection (pairs.erase key) :=
  fun pair member => clean pair (List.mem_of_mem_filter member)

theorem CleanSections.insert (clean : CleanSections sections) (name : CleanName section_)
    (inside : CleanSection pairs) : CleanSections (sections.insert section_ pairs) := by
  intro entry member
  rcases mem_insertEntry member with rfl | before
  · exact ⟨name, inside⟩
  · exact clean entry before

theorem CleanSections.erase (clean : CleanSections sections) :
    CleanSections (sections.erase section_) :=
  fun entry member => clean entry (List.mem_of_mem_filter member)

/-- A section that is found is one of the sections. -/
theorem CleanSections.found (clean : CleanSections sections)
    (found : sections.find section_ = some pairs) : CleanName section_ ∧ CleanSection pairs := by
  rw [SortedMap.find, Option.map_eq_some_iff] at found
  obtain ⟨entry, there, rfl⟩ := found
  have same := List.find?_some there
  rw [decide_eq_true_iff] at same
  rw [Std.LawfulEqCmp.eq_of_compare same]
  exact clean entry (List.mem_of_find?_eq_some there)

theorem CleanSections.assign (clean : CleanSections sections) (name : CleanName section_)
    (label : CleanKey key) (plain : CleanValue value) :
    CleanSections (IniFile.assign sections section_ key value) := by
  refine clean.insert name (CleanSection.insert ?_ label plain)
  cases found : sections.find section_ with
  | none => exact CleanSection.empty
  | some pairs => exact (clean.found found).2

/-- A value that is found can be read back. -/
theorem CleanSections.held (clean : CleanSections sections)
    (held : sections.lookup section_ key = some value) : CleanValue value := by
  obtain ⟨pairs, found, inside⟩ := Option.bind_eq_some_iff.mp held
  rw [SortedMap.find, Option.map_eq_some_iff] at inside
  obtain ⟨pair, there, rfl⟩ := inside
  exact ((clean.found found).2 pair (List.mem_of_find?_eq_some there)).2

theorem CleanSections.get (ini : IniFile) (clean : CleanSections ini.m_sections) :
    CleanValue (ini.get section_ key).1 := by
  rw [get_eq]
  cases held : ini.m_sections.lookup section_ key with
  | none => exact CleanValue.empty
  | some value => exact clean.held held

end Clean

section Runs

/-- Clean calls keep the sections clean. -/
theorem CleanSections.call {ini : IniFile} {made : IniCall}
    (sections : CleanSections ini.m_sections)
    (clean : made.Clean) : CleanSections (ini.call made).m_sections := by
  cases made with
  | set section_ key value => exact sections.assign clean.1 clean.2.1 clean.2.2
  | get section_ key => exact sections.assign clean.1 clean.2 sections.get
  | has | hasSection => exact sections
  | remove section_ key =>
      rw [IniFile.call, IniFile.remove]
      cases found : ini.m_sections.find section_ with
      | none => exact sections
      | some pairs =>
          obtain ⟨name, inside⟩ := sections.found found
          exact sections.insert name inside.erase
  | removeSection section_ => exact sections.erase
  | clear => exact CleanSections.empty

/-- Whatever clean calls have stored can be saved and loaded. -/
theorem run_clean {calls : List IniCall} (clean : ∀ made ∈ calls, made.Clean) :
    CleanSections (run calls).m_sections := by
  induction calls using List.reverseRecOn with
  | nil => exact CleanSections.empty
  | append_singleton calls made ih =>
      rw [List.forall_mem_append] at clean
      rw [run_append]
      exact (ih clean.1).call (clean.2 made List.mem_cons_self)

theorem CleanSections.file {ini : IniFile} (clean : CleanSections ini.m_sections) :
    Utility.Clean ini ∧ Short ini := by
  refine ⟨⟨fun entry member => ?_, fun entry member pair inside => ?_,
    fun entry member pair inside => ?_⟩, fun entry member => ⟨?_, fun pair inside => ?_⟩⟩
  · obtain ⟨name, _⟩ := clean entry member
    exact ⟨name.closed, name.unbroken, name.tidy⟩
  · obtain ⟨key, _⟩ := (clean entry member).2 pair inside
    exact ⟨key.plain, key.unbroken, key.noHeader, key.tidy⟩
  · obtain ⟨_, value⟩ := (clean entry member).2 pair inside
    exact ⟨value.unbroken, value.tidy⟩
  · exact (clean entry member).1.short
  · exact ((clean entry member).2 pair inside).1.short

/-- Reading a missing key stores the empty value that it gives. -/
theorem call_value (ini : IniFile) (made : IniCall) (section_ key : List UInt8) :
    ((ini.call made).m_sections.lookup section_ key).getD ⟨[]⟩ =
      ((made.writes section_ key).getD (ini.m_sections.lookup section_ key)).getD ⟨[]⟩ := by
  by_cases asks : ∃ other another, made = .get other another
  · obtain ⟨other, another, rfl⟩ := asks
    have silent : (IniCall.get other another).writes section_ key = none := rfl
    rw [silent, call, get_stored, SortedMap.lookup_put, Option.getD_none]
    split_ifs with same
    · rw [same.1, same.2, get_eq, Option.getD_some]
    · rfl
  · rw [call_lookup ini made asks]

/-- In every run the file reads each key as the calls set it last. -/
theorem run_value (calls : List IniCall) (section_ key : List UInt8) :
    ((run calls).get section_ key).1 =
      (lastValue (IniCall.writes section_ key) calls).getD ⟨[]⟩ := by
  rw [get_eq]
  induction calls using List.reverseRecOn with
  | nil => rfl
  | append_singleton calls made ih =>
      rw [run_append, lastValue_concat]
      change ((call (run calls) made).m_sections.lookup section_ key).getD _ = _
      rw [call_value]
      cases made.writes section_ key with
      | none => exact ih
      | some change => rfl

/-- A saved file gives each setting back when it is loaded again. -/
theorem settings_survive {calls : List IniCall} (clean : ∀ made ∈ calls, made.Clean)
    {text : List UInt8} (saved : (run calls).save true = some (true, some text))
    (filename : List UInt8) :
    ∃ loaded, fresh.load filename (some text) = some loaded ∧
      ∀ section_ key,
        (∀ setting : Setting, LastSet calls section_ key setting.value →
          setting.ReadFrom (loaded.2.get section_ key).1) ∧
        (¬SetSince calls section_ key →
          (loaded.2.get section_ key).1.toBool = false ∧
            (loaded.2.get section_ key).1.toInt = 0 ∧
              (loaded.2.get section_ key).1.toString = []) := by
  obtain ⟨sound, short⟩ := (run_clean clean).file
  obtain ⟨loaded, ran, same⟩ := (load_str_iff sound (Or.inr saved) filename).mpr short
  refine ⟨loaded, ran, fun section_ key => ?_⟩
  have read : (loaded.2.get section_ key).1 =
      (lastValue (IniCall.writes section_ key) calls).getD ⟨[]⟩ := by
    rw [← run_value, get_eq, get_eq, same]
  constructor
  · intro setting last
    rw [read, lastSet_iff.mp last, Option.getD_some]
    exact readFrom_value setting
  · intro unset
    rw [setSince_iff, Option.not_isSome_iff_eq_none] at unset
    rw [read, unset, Option.getD_none]
    exact ⟨rfl, rfl, rfl⟩

/-- The port is set twice, and asking for the level stores an empty value. -/
def serverCalls : List IniCall :=
  [.set (ascii "server") (ascii "port") (.ofInt (-1)), .get (ascii "log") (ascii "level"),
    .set (ascii "server") (ascii "tcp") (.ofBool true),
    .set (ascii "server") (ascii "port") (.ofInt 8554)]

theorem serverCalls_clean : ∀ made ∈ serverCalls, made.Clean := by
  have server : CleanName (ascii "server") :=
    ⟨by decide, by decide, by decide +kernel, by decide +kernel⟩
  have port : CleanKey (ascii "port") :=
    ⟨by decide, by decide, by decide, by decide +kernel, by decide +kernel⟩
  have log : CleanName (ascii "log") := ⟨by decide, by decide, by decide +kernel, by decide +kernel⟩
  have level : CleanKey (ascii "level") :=
    ⟨by decide, by decide, by decide, by decide +kernel, by decide +kernel⟩
  have tcp : CleanKey (ascii "tcp") :=
    ⟨by decide, by decide, by decide, by decide +kernel, by decide +kernel⟩
  simp only [serverCalls, List.forall_mem_cons]
  exact ⟨⟨server, port, .int _⟩, ⟨log, level⟩, ⟨server, tcp, .bool true⟩, ⟨server, port, .int _⟩,
    fun _ impossible => nomatch impossible⟩

def serverText : List UInt8 :=
  ascii "[log]\nlevel = \n\n[server]\nport = 8554\ntcp = true\n\n"

theorem settings_survive_server : ∃ loaded,
    fresh.load (ascii "main.ini") (some serverText) = some loaded ∧
      (loaded.2.get (ascii "server") (ascii "port")).1.toInt = 8554 ∧
        (loaded.2.get (ascii "server") (ascii "tcp")).1.toBool = true := by
  have saved : (run serverCalls).save true = some (true, some serverText) := by decide +kernel
  obtain ⟨loaded, ran, reads⟩ := settings_survive serverCalls_clean saved (ascii "main.ini")
  refine ⟨loaded, ran, ?_, ?_⟩
  · refine (reads (ascii "server") (ascii "port")).1 (.int 8554) ?_
    exact lastSet_iff.mpr (by decide +kernel)
  · refine (reads (ascii "server") (ascii "tcp")).1 (.bool true) ?_
    exact lastSet_iff.mpr (by decide +kernel)

end Runs

end FzServer.Utility
