import FzServer.Foundation.MessageFraming

/-
This file reads session descriptions, which list the tracks of a presentation.
-/

namespace FzServer.Foundation

/-- The media line says what the section holds, and the other lines describe it. -/
structure MediaSection where
  media : List UInt8
  lines : List (List UInt8)

/-- The lines of the session stand before its sections. -/
structure Description where
  lines : List (List UInt8)
  sections : List MediaSection

/-- A line feed ends each line, and what stands behind the last one is no line. -/
def textLines : List UInt8 → List UInt8 → List (List UInt8)
  | _, [] => []
  | reversed, byte :: rest =>
      if byte = 0x0A then endLine reversed :: textLines [] rest
      else textLines (byte :: reversed) rest

/-- A media line opens a section. -/
def readSections : List (List UInt8) → List (List UInt8) × List MediaSection
  | [] => ([], [])
  | line :: rest =>
      let read := readSections rest
      match scanLiteral (ascii "m=") line with
      | none => (line :: read.1, read.2)
      | some media => ([], ⟨media, read.1⟩ :: read.2)

/-- The first attribute of the name counts. -/
def MediaSection.attribute (section_ : MediaSection) (name : List UInt8) : Option (List UInt8) :=
  section_.lines.findSome? (scanLiteral (ascii "a=" ++ name ++ [0x3A]))

/-- A receiver needs these values to ask for a track and to know its packets. -/
structure MediaTrack where
  kind : List UInt8
  payloadType : Nat
  encoding : List UInt8
  control : List UInt8
  deriving DecidableEq

/-- The map must describe the format of the media line. -/
def MediaSection.track (section_ : MediaSection) : Option MediaTrack :=
  match section_.media.splitOn 0x20 with
  | [kind, _, _, format] =>
      (section_.attribute (ascii "control")).bind fun control =>
        (section_.attribute (ascii "rtpmap")).bind fun rtpmap =>
          match rtpmap.splitOn 0x20 with
          | [mapped, encoding] =>
              if mapped = format then some ⟨kind, decimalValue format, encoding, control⟩ else none
          | _ => none
  | _ => none

namespace Description

def ofText (text : List UInt8) : Description :=
  let read := readSections (textLines [] text)
  ⟨read.1, read.2⟩

/-- A section that describes no track makes the description useless. -/
def tracks (description : Description) : Option (List MediaTrack) :=
  description.sections.mapM MediaSection.track

def allLines (description : Description) : List (List UInt8) :=
  description.lines ++
    description.sections.flatMap fun section_ => (ascii "m=" ++ section_.media) :: section_.lines

def encode (description : Description) : List UInt8 := encodeLines description.allLines

/-- No line is broken, and none but the first of a section opens one. -/
structure Valid (description : Description) : Prop where
  unbroken : ∀ line ∈ description.allLines, 0x0A ∉ line
  session : ∀ line ∈ description.lines, ¬ascii "m=" <+: line
  sections : ∀ section_ ∈ description.sections, ∀ line ∈ section_.lines, ¬ascii "m=" <+: line

end Description

theorem textLines_text (text reversed rest : List UInt8) (unbroken : 0x0A ∉ text) :
    textLines reversed (text ++ rest) = textLines (text.reverse ++ reversed) rest := by
  induction text generalizing reversed with
  | nil => rfl
  | cons byte text ih =>
      rw [List.mem_cons, not_or] at unbroken
      rw [List.cons_append, textLines, if_neg (Ne.symm unbroken.1), ih _ unbroken.2,
        List.reverse_cons, List.append_assoc]
      rfl

/-- The induction follows the lines. -/
theorem textLines_encodeLines (lines : List (List UInt8)) (unbroken : ∀ line ∈ lines, 0x0A ∉ line) :
    textLines [] (encodeLines lines) = lines := by
  induction lines with
  | nil => rfl
  | cons line lines ih =>
      obtain ⟨first, others⟩ := List.forall_mem_cons.mp unbroken
      have shape : encodeLines (line :: lines) = (line ++ [0x0D]) ++ 0x0A :: encodeLines lines := by
        simp [encodeLines]
      have carriage : 0x0A ∉ line ++ [0x0D] := by simp [first]
      have ended : endLine ((line ++ [0x0D]).reverse ++ []) = line := by
        rw [List.append_nil, List.reverse_append]
        exact List.reverse_reverse line
      rw [shape, textLines_text _ _ _ carriage, textLines, if_pos rfl, ended, ih others]

/-- Lines that open no section belong to what stands before the first one. -/
theorem readSections_append {lines : List (List UInt8)}
    (plain : ∀ line ∈ lines, ¬ascii "m=" <+: line) (rest : List (List UInt8)) :
    readSections (lines ++ rest) = (lines ++ (readSections rest).1, (readSections rest).2) := by
  induction lines with
  | nil => rfl
  | cons line lines ih =>
      obtain ⟨first, others⟩ := List.forall_mem_cons.mp plain
      rw [List.cons_append, readSections, ih others, scanLiteral, if_neg first]
      rfl

/-- The induction follows the sections. -/
theorem readSections_sections {sections : List MediaSection}
    (plain : ∀ section_ ∈ sections, ∀ line ∈ section_.lines, ¬ascii "m=" <+: line) :
    readSections (sections.flatMap fun section_ =>
      (ascii "m=" ++ section_.media) :: section_.lines) = ([], sections) := by
  induction sections with
  | nil => rfl
  | cons first others ih =>
      obtain ⟨one, all⟩ := List.forall_mem_cons.mp plain
      rw [List.flatMap_cons, List.cons_append, readSections, readSections_append one, ih all,
        scanLiteral_append, List.append_nil]

/-- A valid description is read as it was written. -/
theorem Description.ofText_encode {description : Description} (valid : description.Valid) :
    Description.ofText description.encode = description := by
  rw [ofText, encode, textLines_encodeLines _ valid.unbroken, allLines,
    readSections_append valid.session, readSections_sections valid.sections, List.append_nil]

end FzServer.Foundation
