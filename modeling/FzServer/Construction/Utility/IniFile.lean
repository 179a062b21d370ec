import FzServer.Foundation.CString
import FzServer.Foundation.SortedMap
import Mathlib.Data.List.DropRight

/-
This file gives the INI files of the server.
-/

namespace FzServer.Utility

open Foundation

/-- No string holds more characters. -/
def maxSize : Nat := 0x7FFFFFFFFFFFFFFF

/-- A failed search returns this position. -/
def npos : Nat := 0xFFFFFFFFFFFFFFFF

/-- A position that is stored in an `int` keeps its low thirty-two bits. -/
def intOf (position : Nat) : Int := (position : Int).bmod 0x100000000

/-- An `int` that is passed as a size wraps at sixty-four bits. -/
def sizeT (value : Int) : Nat := (value % 0x10000000000000000).toNat

/-- A sum that no `int` holds has no defined value. -/
def addInt (first second : Int) : Option Int :=
  let sum := first + second
  if -0x80000000 ≤ sum ∧ sum < 0x80000000 then some sum else none

def findFirstOf (text : List UInt8) (character : UInt8) : Nat :=
  (text.findIdx? (· = character)).getD npos

/-- A position behind the end throws an exception that nothing catches. -/
def substr (text : List UInt8) (pos count : Nat) : Option (List UInt8) :=
  if text.length < pos then none else some ((text.drop pos).take count)

structure Value where
  m_value : List UInt8
  deriving DecidableEq

abbrev Section := SortedMap (List UInt8) Value

structure IniFile where
  m_filename : List UInt8
  m_sections : SortedMap (List UInt8) Section

/-- These calls do not touch a file on the disk. -/
inductive IniCall
  | set (section_ key : List UInt8) (value : Value)
  | get (section_ key : List UInt8)
  | has (section_ key : List UInt8)
  | hasSection (section_ : List UInt8)
  | remove (section_ key : List UInt8)
  | removeSection (section_ : List UInt8)
  | clear
  deriving DecidableEq

namespace IniFile

/-- These characters are removed from both ends. -/
def isBlank (character : UInt8) : Bool := character = 0x20 ∨ character = 0x0A ∨ character = 0x0D

def trim (text : List UInt8) : List UInt8 := (text.dropWhile isBlank).rdropWhile isBlank

/-- The access operators insert a section and a value that are missing. -/
def assign (sections : SortedMap (List UInt8) Section) (section_ key : List UInt8) (value : Value) :
    SortedMap (List UInt8) Section :=
  sections.insert section_ (((sections.find section_).getD .empty).insert key value)

def fresh : IniFile := ⟨[], .empty⟩

/-- A value that is missing is inserted, and it is empty. -/
def get (ini : IniFile) (section_ key : List UInt8) : Value × IniFile :=
  let value := (((ini.m_sections.find section_).getD .empty).find key).getD ⟨[]⟩
  (value, { ini with m_sections := assign ini.m_sections section_ key value })

def set (ini : IniFile) (section_ key : List UInt8) (value : Value) : IniFile :=
  { ini with m_sections := assign ini.m_sections section_ key value }

def has (ini : IniFile) (section_ key : List UInt8) : Bool :=
  match ini.m_sections.find section_ with
  | some pairs => (pairs.find key).isSome
  | none => false

def hasSection (ini : IniFile) (section_ : List UInt8) : Bool :=
  (ini.m_sections.find section_).isSome

def remove (ini : IniFile) (section_ key : List UInt8) : IniFile :=
  match ini.m_sections.find section_ with
  | some pairs => { ini with m_sections := ini.m_sections.insert section_ (pairs.erase key) }
  | none => ini

def removeSection (ini : IniFile) (section_ : List UInt8) : IniFile :=
  { ini with m_sections := ini.m_sections.erase section_ }

def clear (ini : IniFile) : IniFile := { ini with m_sections := .empty }

/-- The caller only reads the value that `get` refers to. -/
def call (ini : IniFile) : IniCall → IniFile
  | .set section_ key value => ini.set section_ key value
  | .get section_ key => (ini.get section_ key).2
  | .has _ _ => ini
  | .hasSection _ => ini
  | .remove section_ key => ini.remove section_ key
  | .removeSection section_ => ini.removeSection section_
  | .clear => ini.clear

def run (calls : List IniCall) : IniFile := calls.foldl call fresh

/-- The last line may lack its line feed. -/
def getlines (text : List UInt8) : List (List UInt8) :=
  let pieces := text.splitOn 0x0A
  if pieces.getLast? = some [] then pieces.dropLast else pieces

/-- The loop changes the current section and the table. -/
structure Loading where
  section_ : List UInt8
  m_sections : SortedMap (List UInt8) Section

/-- A header line starts its section afresh. -/
def loadHeader (state : Loading) (line : List UInt8) : Option Loading :=
  let pos := intOf (findFirstOf line 0x5D)
  (addInt pos (-1)).bind fun count =>
    (substr line 1 (sizeT count)).map fun name =>
      ⟨trim name, state.m_sections.insert (trim name) .empty⟩

/-- Without an equals sign the whole line is the key and the value. -/
def loadAssignment (state : Loading) (line : List UInt8) : Option Loading :=
  let pos := intOf (findFirstOf line 0x3D)
  (substr line 0 (sizeT pos)).bind fun key =>
    (addInt pos 1).bind fun start =>
      (substr line (sizeT start) (sizeT ((line.length : Int) - pos))).map fun value =>
        { state with m_sections := assign state.m_sections state.section_ (trim key) ⟨trim value⟩ }

/-- Blank lines are skipped. -/
def loadLine (state : Loading) (text : List UInt8) : Option Loading :=
  match trim text with
  | [] => some state
  | first :: rest =>
      if first = 0x5B then loadHeader state (first :: rest)
      else loadAssignment state (first :: rest)

/-- No content stands for a file that does not open. The result is the same when it does. -/
def load (ini : IniFile) (filename : List UInt8) (content : Option (List UInt8)) :
    Option (Bool × IniFile) :=
  match content with
  | none => some (false, { ini with m_filename := filename })
  | some text =>
      ((getlines text).foldlM loadLine ⟨[], ini.m_sections⟩).map fun state =>
        (false, ⟨filename, state.m_sections⟩)

def assignmentText (entry : List UInt8 × Value) : List UInt8 :=
  entry.1 ++ ascii " = " ++ entry.2.m_value ++ [0x0A]

def sectionText (entry : List UInt8 × Section) : List UInt8 :=
  [0x5B] ++ entry.1 ++ [0x5D, 0x0A] ++ entry.2.entries.flatMap assignmentText ++ [0x0A]

/-- No value stands for a text that no string holds. -/
def str (ini : IniFile) : Option (List UInt8) :=
  let text := ini.m_sections.entries.flatMap sectionText
  if text.length ≤ maxSize then some text else none

/-- The second value is the new content of the file, if it opens. -/
def save (ini : IniFile) (opens : Bool) : Option (Bool × Option (List UInt8)) :=
  if opens = false then some (false, none) else ini.str.map fun text => (true, some text)

end IniFile

end FzServer.Utility
