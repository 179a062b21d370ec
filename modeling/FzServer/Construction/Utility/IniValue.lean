import FzServer.Construction.Utility.IniFile

/-
This file gives the types of the values in an INI file.
-/

namespace FzServer.Utility

open Foundation

namespace Value

def ofBool (value : Bool) : Value := ⟨if value then ascii "true" else ascii "false"⟩

def ofInt (value : Int32) : Value := ⟨decimal value.toInt⟩

/-- The memory of a C string counts up to its terminator. -/
def ofChars (memory : List UInt8) : Value := ⟨cstring memory⟩

def ofString (value : List UInt8) : Value := ⟨value⟩

def toBool (value : Value) : Bool := value.m_value = ascii "true"

/-- This is `atoi`, and a text that starts with no number is zero. -/
def toInt (value : Value) : Int32 := .ofInt ((scanInt (cstring value.m_value)).getD 0)

def toString (value : Value) : List UInt8 := value.m_value

end Value

/-- A caller sets a value of one of these types. -/
inductive Setting
  | bool (value : Bool)
  | int (value : Int32)
  | chars (memory : List UInt8)
  | string (value : List UInt8)
  deriving DecidableEq

def Setting.value : Setting → Value
  | .bool value => .ofBool value
  | .int value => .ofInt value
  | .chars memory => .ofChars memory
  | .string value => .ofString value

/-- The caller gets the setting back when it asks for its type. -/
def Setting.ReadFrom (held : Value) : Setting → Prop
  | .bool value => held.toBool = value
  | .int value => held.toInt = value
  | .chars memory => held.toString = cstring memory
  | .string value => held.toString = value

end FzServer.Utility
