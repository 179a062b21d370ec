import FzServer.Construction.Utility.IniFile
import FzServer.Foundation.NestedMap

/-
This file compares the calls on an INI file with a map from sections and keys to values.
-/

namespace FzServer.Utility

open Foundation IniFile

section Lookups

variable (ini : IniFile) (section_ key : List UInt8)

/-- The query looks into the map. -/
theorem has_eq : ini.has section_ key = (ini.m_sections.lookup section_ key).isSome := by
  rw [has, SortedMap.lookup]
  cases ini.m_sections.find section_ <;> rfl

/-- A missing value reads as the empty one. -/
theorem get_eq :
    (ini.get section_ key).1 = (ini.m_sections.lookup section_ key).getD ⟨[]⟩ := by
  rw [← SortedMap.find_getD_empty]
  rfl

theorem assign_eq (sections : SortedMap (List UInt8) Section) (value : Value) :
    assign sections section_ key value = sections.put section_ key value := rfl

theorem remove_sections :
    (ini.remove section_ key).m_sections = ini.m_sections.drop section_ key := by
  rw [remove, SortedMap.drop]
  cases ini.m_sections.find section_ <;> rfl

/-- Reading stores the value that it gives. -/
theorem get_stored : (ini.get section_ key).2 =
    { ini with m_sections := ini.m_sections.put section_ key (ini.get section_ key).1 } := rfl

/-- Reading a value that is held changes nothing. -/
theorem get_held {value : Value} (held : ini.m_sections.lookup section_ key = some value) :
    (ini.get section_ key).2 = ini := by
  rw [get_stored, get_eq, held, Option.getD_some, SortedMap.put_found _ _ _ held]

/-- Reading any value holds it from then on. -/
theorem get_holds : (ini.get section_ key).2.has section_ key = true := by
  rw [has_eq, get_stored, SortedMap.lookup_put, if_pos ⟨rfl, rfl⟩, Option.isSome_some]

end Lookups

namespace IniCall

def Asks : IniCall → Prop
  | .get _ _ => True
  | .has _ _ => True
  | .hasSection _ => True
  | _ => False

/-- These calls take the value of the key away. -/
def Removes (section_ key : List UInt8) : IniCall → Prop
  | .remove other another => other = section_ ∧ another = key
  | .removeSection other => other = section_
  | .clear => True
  | _ => False

/-- The abstract map changes in this way. -/
def writes (section_ key : List UInt8) : IniCall → Option (Option Value)
  | .set other another value =>
      if section_ = other ∧ key = another then some (some value) else none
  | .remove other another => if section_ = other ∧ key = another then some none else none
  | .removeSection other => if section_ = other then some none else none
  | .clear => some none
  | _ => none

variable {section_ key : List UInt8} {made : IniCall}

theorem writes_value_iff {value : Value} :
    made.writes section_ key = some (some value) ↔ made = .set section_ key value := by
  cases made <;> simp [writes, eq_comm, and_assoc]

theorem writes_none_iff : made.writes section_ key = some none ↔ made.Removes section_ key := by
  cases made <;> simp [writes, Removes, eq_comm]

theorem sets_iff : Sets (writes section_ key) made ↔ ∃ value, made = .set section_ key value :=
  exists_congr fun _ => writes_value_iff

end IniCall

/-- The key was set, and nothing has removed it since. -/
def SetSince (calls : List IniCall) (section_ key : List UInt8) : Prop :=
  ∃ front value back, calls = front ++ .set section_ key value :: back ∧
    ∀ later ∈ back, ¬later.Removes section_ key

/-- The last such call set this value. -/
def LastSet (calls : List IniCall) (section_ key : List UInt8) (value : Value) : Prop :=
  ∃ front back, calls = front ++ .set section_ key value :: back ∧
    ∀ later ∈ back, ¬later.Removes section_ key ∧ ∀ other, later ≠ .set section_ key other

/-- At every moment the file answers from the calls that have set and removed keys, and the
questions leave no trace. -/
structure ActsAsMap (calls : List IniCall) : Prop where
  held : ∀ front, front <+: calls → ∀ section_ key,
    (run front).has section_ key = true ↔ SetSince front section_ key
  latest : ∀ front, front <+: calls → ∀ section_ key value,
    LastSet front section_ key value → ((run front).get section_ key).1 = value
  traceless : ∀ front question back, front ++ question :: back <+: calls → question.Asks →
    (∀ section_ key, (run (front ++ question :: back)).has section_ key =
      (run (front ++ back)).has section_ key) ∧
    (run (front ++ question :: back)).str = (run (front ++ back)).str

/-- Each `get` asks for a key that was set and not removed since. -/
def ReadsHeld (calls : List IniCall) : Prop :=
  ∀ front section_ key, front ++ [.get section_ key] <+: calls → SetSince front section_ key

section History

variable {calls : List IniCall} {section_ key : List UInt8}

theorem setSince_iff :
    SetSince calls section_ key ↔ (lastValue (IniCall.writes section_ key) calls).isSome := by
  rw [lastValue_isSome_iff]
  constructor
  · rintro ⟨front, value, back, split, kept⟩
    exact ⟨front, _, back, split, IniCall.sets_iff.mpr ⟨value, rfl⟩,
      fun later member => mt IniCall.writes_none_iff.mp (kept later member)⟩
  · rintro ⟨front, item, back, split, sets, kept⟩
    obtain ⟨value, rfl⟩ := IniCall.sets_iff.mp sets
    exact ⟨front, value, back, split,
      fun later member => mt IniCall.writes_none_iff.mpr (kept later member)⟩

theorem lastSet_iff {value : Value} :
    LastSet calls section_ key value ↔
      lastValue (IniCall.writes section_ key) calls = some value := by
  have silent (later : IniCall) : later.writes section_ key = none ↔
      ¬later.Removes section_ key ∧ ∀ other, later ≠ .set section_ key other := by
    rw [← IniCall.writes_none_iff]
    constructor
    · intro nothing
      refine ⟨by simp [nothing], fun other same => ?_⟩
      rw [IniCall.writes_value_iff.mpr same] at nothing
      exact nomatch nothing
    · rintro ⟨kept, unset⟩
      rcases change : later.writes section_ key with _ | _ | other
      · rfl
      · exact absurd change kept
      · exact absurd (IniCall.writes_value_iff.mp change) (unset other)
  rw [lastValue_eq_some_iff]
  constructor
  · rintro ⟨front, back, split, last⟩
    exact ⟨front, _, back, split, IniCall.writes_value_iff.mpr rfl,
      fun later member => (silent later).mpr (last later member)⟩
  · rintro ⟨front, item, back, split, wrote, last⟩
    obtain rfl := IniCall.writes_value_iff.mp wrote
    exact ⟨front, back, split, fun later member => (silent later).mp (last later member)⟩

end History

theorem run_append (front back : List IniCall) :
    run (front ++ back) = back.foldl call (run front) := List.foldl_append

/-- Each call but `get` changes the file as it changes the map. -/
theorem call_lookup (ini : IniFile) (made : IniCall)
    (changes : ¬∃ section_ key, made = .get section_ key) (section_ key : List UInt8) :
    (ini.call made).m_sections.lookup section_ key =
      (made.writes section_ key).getD (ini.m_sections.lookup section_ key) := by
  cases made with
  | set other another value =>
      rw [call, IniFile.set, assign_eq, SortedMap.lookup_put, IniCall.writes]
      split_ifs <;> rfl
  | get other another => exact absurd ⟨other, another, rfl⟩ changes
  | has other another => rfl
  | hasSection other => rfl
  | remove other another =>
      rw [call, remove_sections, SortedMap.lookup_drop, IniCall.writes]
      split_ifs <;> rfl
  | removeSection other =>
      rw [call, removeSection, SortedMap.lookup_erase, IniCall.writes]
      split_ifs <;> rfl
  | clear => rfl

/-- A question that asks for a held key changes nothing. -/
theorem run_question {front : List IniCall} {question : IniCall} (asks : question.Asks)
    (reads : ReadsHeld (front ++ [question]))
    (refines : ∀ section_ key, (run front).m_sections.lookup section_ key =
      lastValue (IniCall.writes section_ key) front) :
    run (front ++ [question]) = run front := by
  rw [run_append]
  cases question with
  | get section_ key =>
      have held := setSince_iff.mp (reads front section_ key (List.prefix_refl _))
      obtain ⟨value, found⟩ := Option.isSome_iff_exists.mp held
      exact get_held _ _ _ ((refines section_ key).trans found)
  | has section_ key => rfl
  | hasSection section_ => rfl
  | _ => exact absurd asks id

/-- The file refines the map of its history as long as `get` asks for held keys. -/
theorem run_refines {calls : List IniCall} (reads : ReadsHeld calls) (section_ key : List UInt8) :
    (run calls).m_sections.lookup section_ key =
      lastValue (IniCall.writes section_ key) calls := by
  induction calls using List.reverseRecOn generalizing section_ key with
  | nil => rfl
  | append_singleton calls made ih =>
      have before : ReadsHeld calls := fun front section_ key short =>
        reads front section_ key (short.trans (List.prefix_append _ _))
      rw [lastValue_concat, ← ih before]
      by_cases asks : ∃ section_ key, made = .get section_ key
      · obtain ⟨other, another, rfl⟩ := asks
        have question : (IniCall.get other another).Asks := trivial
        rw [run_question question reads (ih before)]
        rfl
      · rw [run_append]
        exact call_lookup _ _ asks section_ key

/-- An INI file acts as a map exactly if each `get` asks for a held key. -/
theorem actsAsMap_iff (calls : List IniCall) : ActsAsMap calls ↔ ReadsHeld calls := by
  constructor
  case mp =>
      intro acts front section_ key short
      have holds : (run (front ++ [.get section_ key])).has section_ key = true := by
        rw [run_append]
        exact get_holds _ _ _
      have since := setSince_iff.mp ((acts.held _ short section_ key).mp holds)
      rw [lastValue_concat] at since
      exact setSince_iff.mpr since
  case mpr =>
      intro reads
      have part {front : List IniCall} (short : front <+: calls) : ReadsHeld front :=
        fun first section_ key shorter => reads first section_ key (shorter.trans short)
      constructor
      case held =>
          intro front short section_ key
          rw [has_eq, run_refines (part short), setSince_iff]
      case latest =>
          intro front short section_ key value last
          rw [get_eq, run_refines (part short), lastSet_iff.mp last, Option.getD_some]
      case traceless =>
          intro front question back short asks
          have asked : front ++ [question] <+: calls := by
            refine List.IsPrefix.trans ⟨back, ?_⟩ short
            rw [List.append_assoc, List.singleton_append]
          have same : run (front ++ question :: back) = run (front ++ back) := by
            have refines := run_refines (part ((List.prefix_append front [question]).trans asked))
            rw [← List.singleton_append, ← List.append_assoc, run_append,
              run_question asks (part asked) refines, ← run_append]
          rw [same]
          exact ⟨fun _ _ => rfl, rfl⟩

/-- The first question for a port creates it, and the file would be saved with it. -/
theorem get_creates : ¬ActsAsMap [.get (ascii "server") (ascii "port")] := by
  intro acts
  have held := (acts.held _ (List.prefix_refl _) (ascii "server") (ascii "port")).mp (by decide)
  rw [setSince_iff] at held
  exact absurd held (by decide)

end FzServer.Utility
