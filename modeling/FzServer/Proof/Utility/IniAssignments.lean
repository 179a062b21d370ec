import FzServer.Proof.Utility.IniHistory
import FzServer.Proof.Utility.IniLines

/-
This file compares a loaded INI file with the assignments of its text.
-/

namespace FzServer.Utility

open Foundation IniFile

/-- A line of a text is blank, opens a section, or assigns a value. -/
inductive IniLine
  | blank
  | header (name : List UInt8)
  | assignment (key value : List UInt8)

/-- Blanks may surround the line and each of its parts. -/
def IniLine.Stands (text : List UInt8) : IniLine → Prop
  | .blank => trim text = []
  | .header name => trim text = headerLine name ∧ 0x5D ∉ name
  | .assignment key value =>
      trim text = key ++ 0x3D :: value ∧ 0x3D ∉ key ∧ key.head? ≠ some 0x5B

instance (text : List UInt8) : (line : IniLine) → Decidable (line.Stands text)
  | .blank => inferInstanceAs (Decidable (_ = _))
  | .header _ => inferInstanceAs (Decidable (_ ∧ _))
  | .assignment _ _ => inferInstanceAs (Decidable (_ ∧ _ ∧ _))

/-- The line is written as `[name]` or as `key = value`. -/
def IniLine.Written : IniLine → Prop
  | .blank => True
  | .header name => Tidy name
  | .assignment before _ => ∃ key, Tidy key ∧ before = beforeSign key

/-- The text consists of these lines. -/
def Describes (lines : List IniLine) (text : List UInt8) : Prop :=
  List.Forall₂ (fun line written => line.Stands written) lines (getlines text)

instance (lines : List IniLine) (text : List UInt8) : Decidable (Describes lines text) :=
  inferInstanceAs (Decidable (List.Forall₂ _ _ _))

/-- An assignment is given with the name in the header above it. -/
inductive Placed
  | header (name : List UInt8)
  | assignment (above key value : List UInt8)

def place (above : List UInt8) : List IniLine → List Placed
  | [] => []
  | .blank :: lines => place above lines
  | .header name :: lines => .header name :: place name lines
  | .assignment key value :: lines => .assignment above key value :: place above lines

namespace Placed

/-- The line assigns this value to the key in the section. -/
def assigned (section_ key : List UInt8) : Placed → Option Value
  | .header _ => none
  | .assignment above left right =>
      if section_ = trim above ∧ key = trim left then some ⟨trim right⟩ else none

/-- The loop opens this section, or it stores this value in it. -/
def read : Placed → Option (List UInt8 × Option (List UInt8 × Value))
  | .header name => (headerName name).map fun found => (found, none)
  | .assignment above key value =>
      (headerName above).bind fun found =>
        (readAt (key ++ 0x3D :: value) (intOf key.length)).map fun pair => (found, some pair)

/-- The bracket above the line and its equals sign stand where an `int` can point. -/
def Addressed : Placed → Prop
  | .header _ => True
  | .assignment above key _ => above.length < 2147483647 ∧ key.length < 2147483647

instance : (line : Placed) → Decidable line.Addressed
  | .header _ => inferInstanceAs (Decidable True)
  | .assignment _ _ _ => inferInstanceAs (Decidable (_ ∧ _))

/-- Blanks alone do not carry them away from there. -/
def Narrow : Placed → Prop
  | .header _ => True
  | .assignment above key _ =>
      (above.length < 2147483647 ∨ 2147483647 ≤ (trim above).length) ∧
        (key.length ≤ 2147483647 ∨ 2147483647 ≤ (trim key).length)

/-- The parts are free of their delimiters, and strings hold them. -/
def Plain : Placed → Prop
  | .header _ => True
  | .assignment above key value =>
      0x5D ∉ above ∧ (headerLine above).length ≤ maxSize ∧
        0x3D ∉ key ∧ (key ++ 0x3D :: value).length ≤ maxSize

end Placed

/-- No blanks inside the brackets and at most one before the sign are few enough. -/
theorem narrow_tidy {above key : List UInt8} (value : List UInt8) (tidyName : Tidy above)
    (tidyKey : Tidy key) : (Placed.assignment above (beforeSign key) value).Narrow := by
  have bound := (beforeSign_length key).2
  constructor
  · rw [trim_tidy tidyName]
    omega
  · rw [trim_beforeSign tidyKey]
    omega

theorem place_narrow {lines : List IniLine} (written : ∀ line ∈ lines, line.Written)
    {above : List UInt8} (tidy : Tidy above) : ∀ line ∈ place above lines, line.Narrow := by
  induction lines generalizing above with
  | nil => exact fun _ member => absurd member List.not_mem_nil
  | cons line lines ih =>
      obtain ⟨first, rest⟩ := List.forall_mem_cons.mp written
      cases line with
      | blank => exact ih rest tidy
      | header name =>
          have opened : (Placed.header name).Narrow := trivial
          exact List.forall_mem_cons.mpr ⟨opened, ih rest first⟩
      | assignment before value =>
          obtain ⟨key, tidyKey, rfl⟩ := first
          exact List.forall_mem_cons.mpr ⟨narrow_tidy value tidy tidyKey, ih rest tidy⟩

/-- The text assigns these values to the key in the section, in this order. -/
def assignedValues (lines : List Placed) (section_ key : List UInt8) : List Value :=
  lines.filterMap (Placed.assigned section_ key)

/-- The file holds exactly the keys that some line assigns, each with its last value. -/
structure KeepsAssignments (lines : List Placed) (ini : IniFile) : Prop where
  held : ∀ section_ key, ini.has section_ key = true ↔ assignedValues lines section_ key ≠ []
  latest : ∀ section_ key value, (assignedValues lines section_ key).getLast? = some value →
    (ini.get section_ key).1 = value

/-- No position is too large for its line to be read rightly, and what stood under a name before
a header opens the section again is assigned again behind it. -/
structure Recoverable (lines : List Placed) : Prop where
  addressed : ∀ line ∈ lines, line.Addressed
  renewed : ∀ front name back, lines = front ++ .header name :: back →
    ∃ found, headerName name = some found ∧
      ∀ key, assignedValues front found key ≠ [] → assignedValues back found key ≠ []

section Load

/-- Opening a section empties it. -/
def store (sections : SortedMap (List UInt8) Section)
    (entry : List UInt8 × Option (List UInt8 × Value)) : SortedMap (List UInt8) Section :=
  match entry.2 with
  | none => sections.insert entry.1 .empty
  | some pair => assign sections entry.1 pair.1 pair.2

def storeWrites (section_ key : List UInt8) (entry : List UInt8 × Option (List UInt8 × Value)) :
    Option (Option Value) :=
  match entry.2 with
  | none => if section_ = entry.1 then some none else none
  | some pair => if section_ = entry.1 ∧ key = pair.1 then some (some pair.2) else none

theorem store_lookup (sections : SortedMap (List UInt8) Section)
    (entry : List UInt8 × Option (List UInt8 × Value)) (section_ key : List UInt8) :
    (store sections entry).lookup section_ key =
      (storeWrites section_ key entry).getD (sections.lookup section_ key) := by
  obtain ⟨name, _ | pair⟩ := entry
  · simp only [store, storeWrites, SortedMap.lookup_insert_empty]
    split_ifs <;> rfl
  · simp only [store, storeWrites, assign_eq, SortedMap.lookup_put]
    split_ifs <;> rfl

def loadPlaced (sections : SortedMap (List UInt8) Section) (lines : List Placed) :
    Option (SortedMap (List UInt8) Section) :=
  lines.foldlM (fun before line => line.read.map (store before)) sections

/-- The loop reads the placed lines one after another. -/
theorem loadLines_place {lines : List IniLine} {texts : List (List UInt8)}
    (stand : List.Forall₂ (fun line text => line.Stands text) lines texts)
    {above section_ : List UInt8} (current : headerName above = some section_)
    (sections : SortedMap (List UInt8) Section) :
    (texts.foldlM loadLine ⟨section_, sections⟩).map Loading.m_sections =
      loadPlaced sections (place above lines) := by
  induction stand generalizing above section_ sections with
  | nil => rfl
  | @cons line text lines texts stands _ ih =>
      rw [List.foldlM_cons]
      cases line with
      | blank =>
          have blank : trim text = [] := stands
          rw [loadLine, blank]
          exact ih current sections
      | header name =>
          rw [loadLine_header _ stands.1 stands.2, place, loadPlaced, List.foldlM_cons,
            Placed.read]
          cases found : headerName name with
          | none => rfl
          | some other => exact ih found _
      | assignment key value =>
          rw [loadLine_sign _ stands.1 stands.2.1 stands.2.2, place, loadPlaced,
            List.foldlM_cons, Placed.read, current, Option.bind_some]
          cases readAt (key ++ 0x3D :: value) (intOf key.length) with
          | none => rfl
          | some pair => exact ih current _

theorem place_plain {lines : List IniLine} {texts : List (List UInt8)}
    (stand : List.Forall₂ (fun line text => line.Stands text) lines texts)
    (fits : ∀ text ∈ texts, text.length ≤ maxSize) {above : List UInt8}
    (plain : 0x5D ∉ above) (short : (headerLine above).length ≤ maxSize) :
    ∀ line ∈ place above lines, line.Plain := by
  induction stand generalizing above with
  | nil => exact fun _ member => nomatch member
  | @cons line text lines texts stands _ ih =>
      have trimmed := Nat.le_trans (trim_length text) (fits text List.mem_cons_self)
      have rest := fun other member => fits other (List.mem_cons_of_mem text member)
      cases line with
      | blank => exact ih rest plain short
      | header name =>
          rw [stands.1] at trimmed
          have first : (Placed.header name).Plain := trivial
          exact List.forall_mem_cons.mpr ⟨first, ih rest stands.2 trimmed⟩
      | assignment key value =>
          rw [stands.1] at trimmed
          have first : (Placed.assignment above key value).Plain :=
            ⟨plain, short, stands.2.1, trimmed⟩
          exact List.forall_mem_cons.mpr ⟨first, ih rest plain short⟩

end Load

section Lines

/-- The loop changes the value of the key in this way when it reads the line. -/
def Placed.writes (section_ key : List UInt8) (line : Placed) : Option (Option Value) :=
  line.read.bind (storeWrites section_ key)

variable {line : Placed} {lines : List Placed} {section_ key : List UInt8}

/-- Only a header takes values away. -/
theorem writes_none_iff : line.writes section_ key = some none ↔
    ∃ name, line = .header name ∧ headerName name = some section_ := by
  cases line with
  | header name =>
      rw [Placed.writes, Placed.read]
      cases found : headerName name <;> simp [storeWrites, found, eq_comm]
  | assignment above left right =>
      rw [Placed.writes, Placed.read]
      cases headerName above with
      | none => simp
      | some found =>
          cases readAt (left ++ 0x3D :: right) (intOf left.length) <;> simp [storeWrites]

/-- Only an assignment that is read under these names gives a value. -/
theorem writes_some {value : Value} (written : line.writes section_ key = some (some value)) :
    ∃ above left right, line = .assignment above left right ∧
      headerName above = some section_ ∧
        readAt (left ++ 0x3D :: right) (intOf left.length) = some (key, value) := by
  rw [Placed.writes] at written
  obtain ⟨entry, given, wrote⟩ := Option.bind_eq_some_iff.mp written
  cases line with
  | header name =>
      rw [Placed.read, Option.map_eq_some_iff] at given
      obtain ⟨found, _, rfl⟩ := given
      simp only [storeWrites] at wrote
      split_ifs at wrote
      exact nomatch wrote
  | assignment above left right =>
      rw [Placed.read, Option.bind_eq_some_iff] at given
      obtain ⟨found, name, rest⟩ := given
      rw [Option.map_eq_some_iff] at rest
      obtain ⟨pair, inside, rfl⟩ := rest
      simp only [storeWrites] at wrote
      split_ifs at wrote with same
      obtain ⟨rfl, rfl⟩ := same
      obtain rfl := Option.some.inj (Option.some.inj wrote)
      exact ⟨above, left, right, rfl, name, inside⟩

/-- An addressed line is read as it assigns. -/
theorem writes_addressed (addressed : line.Addressed) (plain : line.Plain) {value : Value} :
    line.writes section_ key = some (some value) ↔ line.assigned section_ key = some value := by
  cases line with
  | header name =>
      rw [Placed.writes, Placed.read]
      cases headerName name <;> simp [storeWrites, Placed.assigned]
  | assignment above left right =>
      rw [Placed.writes, Placed.read, headerName_short addressed.1, Option.bind_some,
        readAt_short addressed.2 plain.2.2.2]
      simp [storeWrites, Placed.assigned]

/-- Some line assigns the key. -/
theorem assignedValues_ne_nil_iff :
    assignedValues lines section_ key ≠ [] ↔
      ∃ line ∈ lines, ∃ value, line.assigned section_ key = some value := by
  rw [assignedValues, ne_eq, List.filterMap_eq_nil_iff]
  simp [Option.ne_none_iff_exists']

/-- On addressed lines, the loop gives a value where a line assigns one. -/
theorem sets_iff (addressed : ∀ line ∈ lines, line.Addressed) (plain : ∀ line ∈ lines, line.Plain) :
    (∃ line ∈ lines, Sets (Placed.writes section_ key) line) ↔
      assignedValues lines section_ key ≠ [] := by
  rw [assignedValues_ne_nil_iff]
  refine exists_congr fun line => and_congr_right fun member => exists_congr fun value => ?_
  exact writes_addressed (addressed line member) (plain line member)

/-- On addressed lines, the value that the loop wrote last is the one assigned last. -/
theorem assignedValues_getLast? (addressed : ∀ line ∈ lines, line.Addressed)
    (plain : ∀ line ∈ lines, line.Plain) {value : Value}
    (holds : lastValue (Placed.writes section_ key) lines = some value) :
    (assignedValues lines section_ key).getLast? = some value := by
  obtain ⟨front, line, back, split, written, silent⟩ := lastValue_eq_some_iff.mp holds
  rw [split, List.forall_mem_append, List.forall_mem_cons] at addressed plain
  refine lastWrite_iff.mpr ⟨front, line, back, split, ?_, fun other behind => ?_⟩
  · exact (writes_addressed addressed.2.1 plain.2.1).mp written
  · rw [Option.eq_none_iff_forall_ne_some]
    intro later assigned
    have wrote := (writes_addressed (addressed.2.2 other behind) (plain.2.2 other behind)).mpr
      assigned
    rw [silent other behind] at wrote
    exact nomatch wrote

/-- No assignment of a recoverable text is lost for good. -/
theorem recoverable_holds (plain : ∀ line ∈ lines, line.Plain) (recoverable : Recoverable lines)
    (assigned : assignedValues lines section_ key ≠ []) :
    (lastValue (Placed.writes section_ key) lines).isSome := by
  obtain ⟨addressed, renewed⟩ := recoverable
  refine lastValue_kept_iff.mpr ?_ ((sets_iff addressed plain).mpr assigned)
  intro front line back split cleared earlier
  obtain ⟨name, rfl, opened⟩ := writes_none_iff.mp cleared
  obtain ⟨found, same, again⟩ := renewed front name back split
  obtain rfl := Option.some.inj (opened.symm.trans same)
  rw [split, List.forall_mem_append, List.forall_mem_cons] at addressed plain
  rw [sets_iff addressed.1 plain.1] at earlier
  exact (sets_iff addressed.2.2 plain.2.2).mpr (again key earlier)

end Lines

section Loaded

variable {lines : List Placed} {sections : SortedMap (List UInt8) Section}
  {filename : List UInt8}

theorem loadPlaced_reads (lines : List Placed) :
    (∃ sections, loadPlaced .empty lines = some sections) ↔
      ∀ line ∈ lines, ∃ entry, line.read = some entry :=
  foldlM_reads Placed.read store lines .empty

/-- The loaded file holds what the loop wrote last. -/
theorem loadPlaced_lookup (ran : loadPlaced .empty lines = some sections)
    (section_ key : List UInt8) :
    sections.lookup section_ key = lastValue (Placed.writes section_ key) lines := by
  have last := foldlM_lastWrite Placed.read store (fun before => before.lookup section_ key)
    (storeWrites section_ key) (fun entry before => store_lookup before entry section_ key) ran
  rw [last, SortedMap.lookup_empty]
  unfold lastValue Placed.writes
  cases (lines.filterMap fun line => line.read.bind (storeWrites section_ key)).getLast? <;> rfl

theorem recoverable_keeps (plain : ∀ line ∈ lines, line.Plain) (recoverable : Recoverable lines)
    (ran : loadPlaced .empty lines = some sections) :
    KeepsAssignments lines ⟨filename, sections⟩ := by
  have addressed := recoverable.addressed
  constructor
  case held =>
      intro section_ key
      rw [has_eq, loadPlaced_lookup ran]
      constructor
      · intro holds
        obtain ⟨front, line, back, split, sets, _⟩ := lastValue_isSome_iff.mp holds
        have member : line ∈ lines := split ▸ List.mem_append_right _ List.mem_cons_self
        exact (sets_iff addressed plain).mp ⟨line, member, sets⟩
      · exact recoverable_holds plain recoverable
  case latest =>
      intro section_ key value last
      have assigned : assignedValues lines section_ key ≠ [] := by
        intro nothing
        rw [nothing] at last
        exact nomatch last
      obtain ⟨given, holds⟩ :=
        Option.isSome_iff_exists.mp (recoverable_holds plain recoverable assigned)
      have final := assignedValues_getLast? addressed plain holds
      rw [get_eq, loadPlaced_lookup ran, holds]
      exact Option.some.inj (final.symm.trans last)

/-- A text that keeps its assignments has each of them read under a short name and key. -/
theorem keeps_addressed (plain : ∀ line ∈ lines, line.Plain) (narrow : ∀ line ∈ lines, line.Narrow)
    (ran : loadPlaced .empty lines = some sections)
    (keeps : KeepsAssignments lines ⟨filename, sections⟩) : ∀ line ∈ lines, line.Addressed := by
  intro line member
  cases line with
  | header name => trivial
  | assignment above key value =>
      have assigned : assignedValues lines (trim above) (trim key) ≠ [] :=
        assignedValues_ne_nil_iff.mpr ⟨_, member, ⟨trim value⟩, if_pos ⟨rfl, rfl⟩⟩
      have held := (keeps.held _ _).mpr assigned
      rw [has_eq, loadPlaced_lookup ran] at held
      -- Some line was read under the names of this one, and no long name is ever read.
      obtain ⟨given, last⟩ := Option.isSome_iff_exists.mp held
      obtain ⟨front, other, back, split, written, _⟩ := lastValue_eq_some_iff.mp last
      obtain ⟨source, left, right, rfl, name, pair⟩ := writes_some written
      have there : .assignment source left right ∈ lines :=
        split ▸ List.mem_append_right _ List.mem_cons_self
      obtain ⟨noBracket, _, noSign, _⟩ := plain _ member
      obtain ⟨_, fitsName, _, fitsPair⟩ := plain _ there
      obtain ⟨narrowName, narrowKey⟩ := narrow _ member
      constructor
      · rcases headerName_range fitsName name with bracket | short
        · exact absurd ((trim_sublist above).subset bracket) noBracket
        · exact narrowName.resolve_right (Nat.not_le_of_lt short)
      · rcases readAt_range fitsPair pair with sign | short
        · exact absurd ((trim_sublist key).subset sign) noSign
        · refine Nat.lt_of_le_of_ne (narrowKey.resolve_right (Nat.not_le_of_lt short)) ?_
          intro edge
          obtain ⟨entry, found⟩ := (loadPlaced_reads lines).mp ⟨sections, ran⟩ _ member
          rw [Placed.read, Option.bind_eq_some_iff] at found
          obtain ⟨_, _, unread⟩ := found
          rw [readAt_edge edge] at unread
          exact nomatch unread

theorem keeps_recoverable (plain : ∀ line ∈ lines, line.Plain)
    (narrow : ∀ line ∈ lines, line.Narrow) (ran : loadPlaced .empty lines = some sections)
    (keeps : KeepsAssignments lines ⟨filename, sections⟩) : Recoverable lines := by
  have addressed := keeps_addressed plain narrow ran keeps
  refine ⟨addressed, fun front name back split => ?_⟩
  have header : .header name ∈ lines := split ▸ List.mem_append_right _ List.mem_cons_self
  obtain ⟨entry, opened⟩ := (loadPlaced_reads lines).mp ⟨sections, ran⟩ _ header
  rw [Placed.read, Option.map_eq_some_iff] at opened
  obtain ⟨found, opens, _⟩ := opened
  refine ⟨found, opens, fun key earlier => ?_⟩
  have kept (sets : ∃ line ∈ lines, Sets (Placed.writes found key) line) :
      (lastValue (Placed.writes found key) lines).isSome := by
    have held := (keeps.held found key).mpr ((sets_iff addressed plain).mp sets)
    rwa [has_eq, loadPlaced_lookup ran] at held
  have again := lastValue_kept_iff.mp kept front (.header name) back split
    (writes_none_iff.mpr ⟨name, rfl, opens⟩)
  rw [split, List.forall_mem_append, List.forall_mem_cons] at addressed plain
  rw [sets_iff addressed.1 plain.1, sets_iff addressed.2.2 plain.2.2] at again
  exact again earlier

end Loaded

/-- A fresh file that loads the text keeps its assignments. -/
def LoadKeeps (text : List UInt8) (lines : List IniLine) (filename : List UInt8) : Prop :=
  ∃ loaded, fresh.load filename (some text) = some loaded ∧
    KeepsAssignments (place [] lines) loaded.2

section Text

variable {text : List UInt8} {lines : List IniLine} (describes : Describes lines text)
  (fits : ∀ line ∈ getlines text, line.length ≤ maxSize)

include describes

theorem describes_loop : ((getlines text).foldlM loadLine ⟨[], .empty⟩).map Loading.m_sections =
    loadPlaced .empty (place [] lines) := by
  have current : headerName [] = some [] := headerName_short (by decide)
  exact loadLines_place describes current .empty

include fits

theorem describes_plain : ∀ line ∈ place [] lines, line.Plain :=
  place_plain describes fits List.not_mem_nil (by decide)

/-- No header and no position of a recoverable text stops the loop. -/
theorem recoverable_loadKeeps (filename : List UInt8) (recoverable : Recoverable (place [] lines)) :
    LoadKeeps text lines filename := by
  have plain := describes_plain describes fits
  have reads : ∀ line ∈ place [] lines, ∃ entry, line.read = some entry := by
    intro line member
    cases line with
    | header name =>
        obtain ⟨front, back, split⟩ := List.append_of_mem member
        obtain ⟨found, opens, _⟩ := recoverable.renewed front name back split
        exact ⟨(found, none), by rw [Placed.read, opens, Option.map_some]⟩
    | assignment above key value =>
        obtain ⟨near, short⟩ := recoverable.addressed _ member
        refine ⟨(trim above, some (trim key, ⟨trim value⟩)), ?_⟩
        rw [Placed.read, headerName_short near, Option.bind_some,
          readAt_short short (plain _ member).2.2.2, Option.map_some]
  obtain ⟨sections, ran⟩ := (loadPlaced_reads _).mpr reads
  obtain ⟨state, loaded, rfl⟩ := Option.map_eq_some_iff.mp ((describes_loop describes).trans ran)
  refine ⟨(false, ⟨filename, state.m_sections⟩), ?_, recoverable_keeps plain recoverable ran⟩
  rw [load]
  exact congrArg _ loaded

theorem loadKeeps_recoverable {filename : List UInt8}
    (narrow : ∀ line ∈ place [] lines, line.Narrow) (keeps : LoadKeeps text lines filename) :
    Recoverable (place [] lines) := by
  obtain ⟨loaded, ran, keeps⟩ := keeps
  obtain ⟨state, through, rfl⟩ := Option.map_eq_some_iff.mp ran
  have placed : loadPlaced .empty (place [] lines) = some state.m_sections := by
    rw [← describes_loop describes]
    exact congrArg (Option.map Loading.m_sections) through
  exact keeps_recoverable (describes_plain describes fits) narrow placed keeps

end Text

/-- A recoverable text keeps its assignments, and where blanks alone carry no delimiter out of the
range of an `int`, no other text does. -/
theorem load_keepsAssignments_iff {text : List UInt8} {lines : List IniLine}
    (describes : Describes lines text) (fits : ∀ line ∈ getlines text, line.length ≤ maxSize)
    (filename : List UInt8) :
    (Recoverable (place [] lines) → LoadKeeps text lines filename) ∧
      ((∀ line ∈ place [] lines, line.Narrow) → LoadKeeps text lines filename →
        Recoverable (place [] lines)) :=
  ⟨recoverable_loadKeeps describes fits filename, loadKeeps_recoverable describes fits⟩

/-- The port is assigned again below the second header of its section. -/
def renewedLines : List IniLine :=
  [.header (ascii "server"), .assignment (ascii "port ") (ascii " 1"), .blank,
    .header (ascii " server "), .assignment (ascii "port") (ascii "12345")]

theorem load_keepsAssignments_renewed :
    LoadKeeps (ascii "[server]\nport = 1\n\n [ server ]\r\nport=12345") renewedLines
      (ascii "conf/config.ini") := by
  refine (load_keepsAssignments_iff (by decide +kernel) (by decide +kernel) _).1
    ⟨by decide +kernel, fun front name back split => ?_⟩
  have port : trim (ascii "port ") = ascii "port" := by decide +kernel
  rcases front with _ | ⟨_, _ | ⟨_, _ | ⟨_, _ | ⟨_, front⟩⟩⟩⟩
  · cases split
    exact ⟨ascii "server", by decide +kernel, fun key earlier => absurd rfl earlier⟩
  · cases split
  · cases split
    refine ⟨ascii "server", by decide +kernel, fun key earlier => ?_⟩
    by_cases same : key = ascii "port"
    · subst same
      decide +kernel
    · exact absurd (by simp [assignedValues, Placed.assigned, port, same]) earlier
  · cases split
  · cases front <;> cases split

/-- Of the texts with lines `[name]` and `key = value`, exactly the recoverable ones keep their
assignments. -/
theorem written_loadKeeps_iff {text : List UInt8} {lines : List IniLine}
    (describes : Describes lines text) (fits : ∀ line ∈ getlines text, line.length ≤ maxSize)
    (written : ∀ line ∈ lines, line.Written) (filename : List UInt8) :
    LoadKeeps text lines filename ↔ Recoverable (place [] lines) := by
  have narrow : ∀ line ∈ place [] lines, line.Narrow := place_narrow written (by simp [Tidy])
  exact ⟨loadKeeps_recoverable describes fits narrow, recoverable_loadKeeps describes fits filename⟩

/-- The second header of the section takes the port away. -/
def lostLines : List IniLine :=
  [.header (ascii "server"), .assignment (ascii "port ") (ascii " 12345"),
    .header (ascii "server"), .assignment (ascii "ip ") (ascii " 0.0.0.0")]

def lostText : List UInt8 := ascii "[server]\nport = 12345\n[server]\nip = 0.0.0.0\n"

theorem load_losesAssignment :
    Describes lostLines lostText ∧ ¬LoadKeeps lostText lostLines (ascii "conf/config.ini") := by
  refine ⟨by decide +kernel, fun ⟨loaded, ran, keeps⟩ => ?_⟩
  have held := (keeps.held (ascii "server") (ascii "port")).mpr (by decide +kernel)
  have lost : (fresh.load (ascii "conf/config.ini") (some lostText)).map
      (fun loaded => loaded.2.has (ascii "server") (ascii "port")) = some false := by
    decide +kernel
  rw [ran, Option.map_some, held] at lost
  exact nomatch lost

end FzServer.Utility
