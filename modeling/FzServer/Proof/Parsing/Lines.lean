import FzServer.Construction.Rtsp.RequestParser

/-
This file shows what the parse loop does not see of the line ends.
-/

namespace FzServer.Parsing

open Foundation Rtsp

theorem scanLiteral_carriage {literal : List UInt8} (absent : 0x0D ∉ literal)
    (text : List UInt8) :
    scanLiteral literal (text ++ [0x0D]) =
      (scanLiteral literal text).map fun rest => rest ++ [0x0D] := by
  rw [scanLiteral, scanLiteral]
  by_cases starts : literal <+: text
  · rw [if_pos ((prefix_separator_iff absent).mpr starts), if_pos starts,
      List.drop_append_of_le_length starts.length_le]
    rfl
  · rw [if_neg fun longer => starts ((prefix_separator_iff absent).mp longer), if_neg starts]
    rfl

theorem hasKeyword_carriage (line : List UInt8) :
    hasKeyword (line ++ [0x0D]) = hasKeyword line := by
  have each : ∀ keyword ∈ keywords, 0x0D ∉ keyword ∧ keyword ≠ [] := by decide
  rw [hasKeyword, hasKeyword, Bool.eq_iff_iff, List.any_eq_true, List.any_eq_true]
  refine exists_congr fun keyword => and_congr_right fun member => ?_
  rw [strstr_separator (each keyword member).1 (each keyword member).2]

theorem scanRequestLine_carriage (line : List UInt8) (scanned : Scanned) :
    scanRequestLine (line ++ [0x0D]) scanned = scanRequestLine line scanned := by
  rw [scanRequestLine, scanRequestLine, scanToken_carriage]
  cases scanToken line with
  | none => rfl
  | some first =>
      obtain ⟨method, afterMethod⟩ := first
      simp only [Option.map_some, scanToken_carriage]
      cases scanToken afterMethod with
      | none => rfl
      | some second =>
          obtain ⟨url, afterUrl⟩ := second
          simp only [Option.map_some, scanToken_carriage]
          cases scanToken afterUrl <;> rfl

theorem scanCSeq_carriage (line : List UInt8) :
    scanCSeq (line ++ [0x0D]) = scanCSeq line := by
  rw [scanCSeq, scanCSeq, scanLiteral_carriage (by decide)]
  cases scanLiteral (ascii "CSeq:") line with
  | none => rfl
  | some rest => exact scanInt_carriage rest

theorem scanSession_carriage (line : List UInt8) :
    scanSession (line ++ [0x0D]) = scanSession line := by
  rw [scanSession, scanSession, scanLiteral_carriage (by decide)]
  cases scanLiteral (ascii "Session:") line with
  | none => rfl
  | some rest =>
      simp only [Option.map_some, Option.bind_some, scanToken_carriage]
      cases scanToken rest <;> rfl

theorem setTracks_carriage (scanned : Scanned) (line : List UInt8) :
    scanned.setTracks (line ++ [0x0D]) = scanned.setTracks line := by
  rw [Scanned.setTracks, Scanned.setTracks, Rtsp.setTracks, Rtsp.setTracks,
    strstr_separator (by decide) (by decide), strstr_separator (by decide) (by decide)]

/-- The loop does not see a carriage return at the end of a line. -/
theorem parseLine_carriage (scanned : Scanned) (line : List UInt8) :
    parseLine scanned (line ++ [0x0D]) = parseLine scanned line := by
  have transport : ascii "Transport:" <+: line ++ [0x0D] ↔ ascii "Transport:" <+: line :=
    prefix_separator_iff (by decide)
  rw [parseLine, parseLine, hasKeyword_carriage, setTracks_carriage, scanRequestLine_carriage,
    strstr_separator (by decide) (by decide), strstr_separator (by decide) (by decide),
    scanCSeq_carriage, Scanned.setSession, Scanned.setSession, scanSession_carriage]
  simp only [transport]

@[simp] theorem parseText_nil (scanned : Scanned) : parseText [] scanned = scanned := rfl

/-- The lines before a line feed are read first. -/
theorem parseText_append (first second : List UInt8) (scanned : Scanned) :
    parseText (first ++ 0x0A :: second) scanned =
      parseText second (parseText first scanned) := by
  rw [parseText, strtok_append, List.foldl_append]
  rfl

/-- A text without a line feed is one line. -/
theorem parseText_line {line : List UInt8} (absent : 0x0A ∉ line) (scanned : Scanned) :
    parseText line scanned = parseLine scanned line := by
  cases line with
  | nil => rfl
  | cons character rest =>
      rw [parseText, strtok_single 0x0A _ (List.cons_ne_nil _ _) absent]
      rfl

theorem parseText_linefeed (text : List UInt8) (scanned : Scanned) :
    parseText (text ++ [0x0A]) scanned = parseText text scanned := by
  rw [parseText_append, parseText_nil]

theorem parseText_carriage (text : List UInt8) (scanned : Scanned) :
    parseText (text ++ [0x0D]) scanned = parseText text scanned := by
  by_cases broken : 0x0A ∈ text
  · obtain ⟨first, second, shape⟩ := List.append_of_mem broken
    have shorter : second.length < text.length := by
      rw [shape, List.length_append, List.length_cons]
      omega
    rw [shape, List.append_assoc, List.cons_append, parseText_append, parseText_append,
      parseText_carriage second]
  · rw [parseText_line (by simp [broken]), parseText_line broken, parseLine_carriage]
termination_by text.length
decreasing_by exact shorter

/-- These bytes only end lines. -/
def EndsLines (text : List UInt8) : Prop := ∀ character ∈ text, character = 0x0D ∨ character = 0x0A

/-- The loop does not see line ends at the end of the text. -/
theorem parseText_ending (text : List UInt8) {ending : List UInt8} (ends : EndsLines ending)
    (scanned : Scanned) : parseText (text ++ ending) scanned = parseText text scanned := by
  induction ending generalizing text with
  | nil => rw [List.append_nil]
  | cons character ending ih =>
      rw [List.append_cons, ih (text ++ [character]) fun other member =>
        ends other (List.mem_cons_of_mem character member)]
      rcases ends character List.mem_cons_self with carriage | linefeed
      · rw [carriage, parseText_carriage]
      · rw [linefeed, parseText_linefeed]

/-- The loop does not see line ends before the first line. -/
theorem parseText_beginning {beginning : List UInt8} (ends : EndsLines beginning)
    (text : List UInt8) (scanned : Scanned) :
    parseText (beginning ++ 0x0A :: text) scanned = parseText text scanned := by
  have ignored := parseText_ending [] ends scanned
  rw [List.nil_append] at ignored
  rw [parseText_append, ignored, parseText_nil]

end FzServer.Parsing
