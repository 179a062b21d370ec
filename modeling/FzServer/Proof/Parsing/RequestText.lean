import FzServer.Proof.Parsing.WellFormed

/-
This file follows the parse loop over the bytes of a well-formed request.
-/

namespace FzServer.Parsing

open Foundation Sessions Rtsp

/-- A text of one line has no line feed and no terminator. -/
def OneLine (text : List UInt8) : Prop := 0 ∉ text ∧ 0x0A ∉ text

theorem OneLine.append {first second : List UInt8} (one : OneLine first) (two : OneLine second) :
    OneLine (first ++ second) := by
  constructor
  · simpa using ⟨one.1, two.1⟩
  · simpa using ⟨one.2, two.2⟩

theorem OneLine.cons {character : UInt8} {text : List UInt8}
    (inside : character ≠ 0 ∧ character ≠ 0x0A) (one : OneLine text) :
    OneLine (character :: text) := by
  constructor
  · simpa using ⟨Ne.symm inside.1, one.1⟩
  · simpa using ⟨Ne.symm inside.2, one.2⟩

theorem oneLine_of_solid {text : List UInt8}
    (solid : ∀ character ∈ text, isspace character = false ∧ character ≠ 0) : OneLine text := by
  constructor
  · exact fun zero => (solid 0 zero).2 rfl
  · intro linefeed
    exact absurd (solid 0x0A linefeed).1 (by decide)

theorem Blanks.isspace (blanks : Blanks) : ∀ character ∈ blanks.text, isspace character = true := by
  intro character member
  rcases blanks.spaces character member with rfl | rfl <;> rfl

theorem Blanks.oneLine (blanks : Blanks) : OneLine blanks.text := by
  constructor
  · intro zero
    exact absurd (blanks.spaces 0 zero) (by decide)
  · intro linefeed
    exact absurd (blanks.spaces 0x0A linefeed) (by decide)

theorem Digits.oneLine (digits : Digits) : OneLine digits.text := by
  constructor
  · intro zero
    exact absurd (digits.digits 0 zero) (by decide)
  · intro linefeed
    exact absurd (digits.digits 0x0A linefeed) (by decide)

namespace Header

theorem name_solid (header : Header) :
    ∀ character ∈ header.name, isspace character = false ∧ character ≠ 0 := by
  cases header with
  | cseq => simp [name, ascii, isspace]
  | session => simp [name, ascii, isspace]
  | other name => exact name.solid

theorem name_oneWord (header : Header) : 0x3A ∉ header.name := by
  cases header with
  | cseq =>
      rw [name]
      decide
  | session =>
      rw [name]
      decide
  | other name value oneWord => exact oneWord

theorem value_oneLine (header : Header) : OneLine header.value := by
  cases header with
  | cseq blanks number => exact blanks.oneLine.append number.oneLine
  | session blanks value => exact blanks.oneLine.append (oneLine_of_solid value.solid)
  | other name value oneWord ordinary oneLine => exact ⟨oneLine.1, oneLine.2.1⟩

theorem line_oneLine (header : Header) : OneLine header.line :=
  (oneLine_of_solid header.name_solid).append (header.value_oneLine.cons (by decide))

/-- A literal that ends at the colon starts only the line of its own header. -/
theorem literal_line_iff (header : Header) {literal : List UInt8} (oneWord : 0x3A ∉ literal) :
    literal ++ [0x3A] <+: header.line ↔ header.name = literal := by
  constructor
  · rintro ⟨rest, whole⟩
    rw [List.append_assoc, List.singleton_append, line] at whole
    have cut := congrArg (List.takeWhile (· ≠ 0x3A)) whole
    have before (text rest : List UInt8) (absent : 0x3A ∉ text) :
        (text ++ 0x3A :: rest).takeWhile (· ≠ 0x3A) = text := by
      rw [List.takeWhile_append_of_pos]
      · simp
      · intro character member
        simpa using fun colon : character = 0x3A => absent (colon ▸ member)
    rw [before literal rest oneWord, before header.name header.value header.name_oneWord] at cut
    exact cut.symm
  · rintro rfl
    exact ⟨header.value, by rw [line, List.append_assoc, List.singleton_append]⟩

/-- The first token of a header line goes past the colon. -/
def firstToken (header : Header) : List UInt8 :=
  header.name ++ 0x3A :: header.value.takeWhile fun character => !isspace character

theorem scanToken_line (header : Header) :
    scanToken header.line =
      some (header.firstToken, header.value.dropWhile fun character => !isspace character) := by
  have shape : header.line = [] ++ (header.firstToken ++
      header.value.dropWhile fun character => !isspace character) := by
    rw [line, firstToken, List.nil_append, List.append_assoc, List.cons_append,
      List.takeWhile_append_dropWhile]
  rw [shape]
  apply scanToken_append
  · simp
  · intro character member
    rw [firstToken, List.mem_append, List.mem_cons] at member
    rcases member with inName | rfl | inValue
    · exact (header.name_solid character inName).1
    · rfl
    · simpa using List.mem_takeWhile_imp inValue
  · simp [firstToken]
  · intro character first
    have stopped := List.head?_dropWhile_not (fun other => !isspace other) header.value
    rw [Option.mem_def.mp first] at stopped
    simpa using stopped

end Header

theorem requestLine_oneLine (request : RequestLines) : OneLine request.requestLine := by
  have method : OneLine request.method.text := by
    cases request.method <;> exact ⟨by decide, by decide⟩
  have version : OneLine (ascii "RTSP/1.0") := ⟨by decide, by decide⟩
  have url := oneLine_of_solid request.url.solid
  exact method.append ((url.append (version.cons (by decide))).cons (by decide))

/-- The loop reads a terminated line and goes on behind it. -/
theorem parseText_terminated {line : List UInt8} (oneLine : OneLine line) (rest : List UInt8)
    (scanned : Scanned) :
    parseText (line ++ crlf ++ rest) scanned = parseText rest (parseLine scanned line) := by
  have shape : line ++ crlf ++ rest = (line ++ [0x0D]) ++ 0x0A :: rest := by simp [crlf]
  have carriage : 0x0A ∉ line ++ [0x0D] := by simpa using oneLine.2
  rw [shape, parseText_append, parseText_line carriage, parseLine_carriage]

def readHeader (scanned : Scanned) (header : Header) : Scanned := parseLine scanned header.line

theorem parseText_headers (headers : List Header) (scanned : Scanned) :
    parseText ((headers.flatMap fun header => header.line ++ crlf) ++ crlf) scanned =
      headers.foldl readHeader scanned := by
  induction headers generalizing scanned with
  | nil =>
      have ends : EndsLines crlf := by
        unfold EndsLines
        simp [crlf]
      exact parseText_ending [] ends scanned
  | cons header headers ih =>
      rw [List.flatMap_cons, List.append_assoc, parseText_terminated header.line_oneLine, ih]
      rfl

theorem zero_notMem_bytes (request : RequestLines) : 0 ∉ request.bytes := by
  have crlf_zero : (0 : UInt8) ∉ crlf := by decide
  simp only [RequestLines.bytes, List.mem_append, List.mem_flatMap, not_or, not_exists, not_and]
  exact ⟨⟨⟨(requestLine_oneLine request).1, crlf_zero⟩, fun header _ =>
    ⟨header.line_oneLine.1, crlf_zero⟩⟩, crlf_zero⟩

/-- The loop reads the request line and then each header. -/
theorem parseRequest_received (request : RtspRequest) (surroundings : Surroundings)
    (handler : RtspHandler) :
    parseRequest request.received.bytes surroundings handler =
      request.headers.foldl readHeader
        (parseLine (Scanned.init surroundings handler) request.requestLine) := by
  have terminated : cstring request.bytes = request.bytes := by
    have whole := cstring_append (zero_notMem_bytes request.toRequestLines) []
    rwa [List.append_nil, show cstring [] = [] from rfl, List.append_nil] at whole
  have text : bufferText request.received.bytes surroundings = request.bytes := by
    rw [bufferText, RtspRequest.received, if_pos request.fits, terminated]
  rw [parseRequest, text, RequestLines.bytes, List.append_assoc,
    parseText_terminated (requestLine_oneLine request.toRequestLines), parseText_headers]

end FzServer.Parsing
