import FzServer.Foundation.CString
import FzServer.Foundation.FrameCodec

/-
This file frames messages that have header lines, an empty line, and a counted body.
-/

namespace FzServer.Foundation

/-- The first line says what the message is, and the others are its fields. -/
structure Message where
  lines : List (List UInt8)
  body : List UInt8

/-- A carriage return before the line feed belongs to the line break. -/
def endLine : List UInt8 → List UInt8
  | 0x0D :: reversed => reversed.reverse
  | reversed => reversed.reverse

/-- The reader collects lines until it meets an empty one. -/
def readHead : List UInt8 → List (List UInt8) → List UInt8 →
    Option (List (List UInt8) × List UInt8)
  | _, _, [] => none
  | reversed, lines, byte :: rest =>
      if byte = 0x0A then
        if endLine reversed = [] then some (lines.reverse, rest)
        else readHead [] (endLine reversed :: lines) rest
      else readHead (byte :: reversed) lines rest

/-- Names of fields are compared without regard to case. -/
def lowercase (text : List UInt8) : List UInt8 :=
  text.map fun character =>
    if 0x41 ≤ character ∧ character ≤ 0x5A then character + 0x20 else character

/-- The value of a field stands behind the colon and the blanks. -/
def fieldValue (name line : List UInt8) : Option (List UInt8) :=
  let label := line.takeWhile (· ≠ 0x3A)
  if lowercase label = lowercase name ∧ label.length < line.length then
    some ((line.drop (label.length + 1)).dropWhile isspace)
  else none

/-- The first field with the name counts. -/
def fieldOf (name : List UInt8) (lines : List (List UInt8)) : Option (List UInt8) :=
  lines.tail.findSome? (fieldValue name)

/-- A body without an announced length is empty. -/
def bodyLength (lines : List (List UInt8)) : Option Nat :=
  match fieldOf (ascii "Content-length") lines with
  | none => some 0
  | some digits =>
      if digits ≠ [] ∧ digits.all isdigit then some (decimalValue digits) else none

def Message.field (message : Message) (name : List UInt8) : Option (List UInt8) :=
  fieldOf name message.lines

/-- Every line ends with a carriage return and a line feed. -/
def encodeLines (lines : List (List UInt8)) : List UInt8 :=
  lines.flatMap fun line => line ++ [0x0D, 0x0A]

def Message.encode (message : Message) : List UInt8 :=
  encodeLines message.lines ++ 0x0D :: 0x0A :: message.body

def decodeMessage (stream : List UInt8) : Option (Message × List UInt8) :=
  (readHead [] [] stream).bind fun head =>
    if head.1 = [] then none
    else (bodyLength head.1).bind fun size =>
      if head.2.length < size then none
      else some (⟨head.1, head.2.take size⟩, head.2.drop size)

/-- The lines are not empty and not broken, and the announced length is that of the body. -/
structure Message.Valid (message : Message) : Prop where
  head : message.lines ≠ []
  lines : ∀ line ∈ message.lines, line ≠ [] ∧ 0x0A ∉ line
  body : bodyLength message.lines = some message.body.length

/-- The reader keeps the characters of an unbroken text. -/
theorem readHead_text (text reversed : List UInt8) (lines : List (List UInt8)) (rest : List UInt8)
    (unbroken : 0x0A ∉ text) :
    readHead reversed lines (text ++ rest) = readHead (text.reverse ++ reversed) lines rest := by
  induction text generalizing reversed with
  | nil => rfl
  | cons byte text ih =>
      rw [List.mem_cons, not_or] at unbroken
      rw [List.cons_append, readHead, if_neg (Ne.symm unbroken.1), ih _ unbroken.2,
        List.reverse_cons, List.append_assoc]
      rfl

/-- A line break ends the line, and the empty line ends the head. -/
theorem readHead_line (line : List UInt8) (lines : List (List UInt8)) (rest : List UInt8)
    (unbroken : 0x0A ∉ line) :
    readHead [] lines (line ++ 0x0D :: 0x0A :: rest) =
      if line = [] then some (lines.reverse, rest) else readHead [] (line :: lines) rest := by
  have carriage : 0x0A ∉ line ++ [0x0D] := by simp [unbroken]
  have ended : endLine (0x0D :: line.reverse) = line := List.reverse_reverse line
  rw [show line ++ 0x0D :: 0x0A :: rest = (line ++ [0x0D]) ++ 0x0A :: rest by simp,
    readHead_text _ _ _ _ carriage, List.append_nil, List.reverse_append, List.reverse_singleton,
    List.singleton_append, readHead, if_pos rfl, ended]

/-- The induction follows the lines of the head. -/
theorem readHead_lines (texts lines : List (List UInt8)) (rest : List UInt8)
    (solid : ∀ line ∈ texts, line ≠ [] ∧ 0x0A ∉ line) :
    readHead [] lines (encodeLines texts ++ 0x0D :: 0x0A :: rest) =
      some (lines.reverse ++ texts, rest) := by
  induction texts generalizing lines with
  | nil =>
      rw [List.append_nil]
      exact readHead_line [] lines rest (by simp)
  | cons line texts ih =>
      obtain ⟨nonempty, unbroken⟩ := solid line List.mem_cons_self
      have shape : encodeLines (line :: texts) ++ 0x0D :: 0x0A :: rest =
          line ++ 0x0D :: 0x0A :: (encodeLines texts ++ 0x0D :: 0x0A :: rest) := by
        simp [encodeLines]
      rw [shape, readHead_line line lines _ unbroken, if_neg nonempty,
        ih (line :: lines) fun other member => solid other (List.mem_cons_of_mem _ member)]
      simp

/-- A message ends where its announced body ends. -/
def messageCodec : FrameCodec Message UInt8 where
  encode := Message.encode
  decode := decodeMessage
  Valid := Message.Valid
  decode_encode message rest valid := by
    rw [Message.encode, List.append_assoc, List.cons_append, List.cons_append, decodeMessage,
      readHead_lines _ _ _ valid.lines, Option.bind_some, List.reverse_nil, List.nil_append,
      if_neg valid.head, valid.body, Option.bind_some, if_neg (by simp), List.take_left,
      List.drop_left]
  encode_ne_nil message := by simp [Message.encode]

/-- This line holds one field. -/
def fieldLine (label value : List UInt8) : List UInt8 := label ++ 0x3A :: 0x20 :: value

/-- A field is found under its own name alone. -/
theorem fieldValue_fieldLine (name value : List UInt8) {label : List UInt8}
    (plain : 0x3A ∉ label) :
    fieldValue name (fieldLine label value) =
      if lowercase label = lowercase name then some (value.dropWhile isspace) else none := by
  have front : (fieldLine label value).takeWhile (· ≠ 0x3A) = label := by
    rw [fieldLine, List.takeWhile_append_of_pos]
    · simp
    · exact fun character member => decide_eq_true fun colon => plain (colon ▸ member)
  have behind : (fieldLine label value).drop (label.length + 1) = 0x20 :: value := by
    rw [fieldLine, ← List.drop_drop, List.drop_left]
    rfl
  have longer : label.length < (fieldLine label value).length := by
    rw [fieldLine, List.length_append]
    exact Nat.lt_add_of_pos_right (Nat.succ_pos _)
  simp only [fieldValue, front, behind, longer, and_true]
  rfl

/-- A message without fields of a length has no body. -/
theorem bodyLength_none {lines : List (List UInt8)}
    (absent : fieldOf (ascii "Content-length") lines = none) : bodyLength lines = some 0 := by
  rw [bodyLength, absent]

/-- The announced digits count the body. -/
theorem bodyLength_some {lines : List (List UInt8)} {digits : List UInt8}
    (announced : fieldOf (ascii "Content-length") lines = some digits) (nonempty : digits ≠ [])
    (decimal : ∀ digit ∈ digits, isdigit digit = true) :
    bodyLength lines = some (decimalValue digits) := by
  rw [bodyLength, announced]
  exact if_pos ⟨nonempty, List.all_eq_true.mpr decimal⟩

end FzServer.Foundation
