import FzServer.Foundation.ByteOrder
import FzServer.Proof.Parsing.Bounds
import FzServer.Proof.Parsing.RequestText
import FzServer.Proof.Session.SolidNames

/-
This file follows the name of a session from its random bytes back to the table.
-/

namespace FzServer.Parsing

open Foundation Sessions Rtsp

section Digits

def isHexDigit (character : UInt8) : Bool :=
  0x30 ≤ character ∧ character ≤ 0x39 ∨ 0x61 ≤ character ∧ character ≤ 0x66

def hexValue (digit : UInt8) : Option UInt8 :=
  if 0x30 ≤ digit ∧ digit ≤ 0x39 then some (digit - 0x30)
  else if 0x61 ≤ digit ∧ digit ≤ 0x66 then some (digit - 0x61 + 10)
  else none

/-- The first digit is the upper one. -/
def hexByte (high low : UInt8) : Option UInt8 :=
  (hexValue high).bind fun upper => (hexValue low).map fun lower => 16 * upper + lower

def hexToBytes : List UInt8 → Option (List UInt8)
  | [] => some []
  | high :: low :: rest =>
      (hexByte high low).bind fun byte => (hexToBytes rest).map fun bytes => byte :: bytes
  | [_] => none

/-- A byte comes back from its two digits. -/
theorem hexByte_digits (byte : UInt8) :
    isHexDigit (hexDigit (byte / 16)) = true ∧ isHexDigit (hexDigit (byte % 16)) = true ∧
      hexByte (hexDigit (byte / 16)) (hexDigit (byte % 16)) = some byte :=
  byte_forall (fun byte => isHexDigit (hexDigit (byte / 16)) = true ∧
    isHexDigit (hexDigit (byte % 16)) = true ∧
      hexByte (hexDigit (byte / 16)) (hexDigit (byte % 16)) = some byte) (by decide +kernel) byte

theorem hexToBytes_bytesToHex (bytes : List UInt8) :
    hexToBytes (bytesToHex bytes) = some bytes := by
  induction bytes with
  | nil => rfl
  | cons byte bytes ih =>
      change (hexByte (hexDigit (byte / 16)) (hexDigit (byte % 16))).bind (fun first =>
        (hexToBytes (bytesToHex bytes)).map fun rest => first :: rest) = some (byte :: bytes)
      rw [(hexByte_digits byte).2.2, ih]
      rfl

theorem isHexDigit_generateSessionId (randomBytes : Vector UInt8 16) :
    ∀ digit ∈ generateSessionId randomBytes, isHexDigit digit = true := by
  intro digit member
  rw [generateSessionId, bytesToHex, List.mem_flatMap] at member
  obtain ⟨byte, _, member⟩ := member
  obtain ⟨high, low, _⟩ := hexByte_digits byte
  rcases List.mem_pair.mp member with rfl | rfl
  · exact high
  · exact low

end Digits

/-- Other header lines stand around the line that names the session. -/
structure SessionRequest where
  requestLine : List UInt8
  before : List (List UInt8)
  randomBytes : Vector UInt8 16
  after : List (List UInt8)
  oneLine : ∀ line ∈ requestLine :: (before ++ after), OneLine line
  fits : LineFits requestLine
  quiet : ∀ line ∈ before ++ after,
    hasKeyword line = false ∧ strstr line (ascii "Session") = false

namespace SessionRequest

variable (request : SessionRequest)

def id : List UInt8 := generateSessionId request.randomBytes

def sessionLine : List UInt8 := ascii "Session: " ++ request.id

def lines : List (List UInt8) :=
  request.requestLine :: (request.before ++ request.sessionLine :: request.after)

/-- An empty line ends the request. -/
def text : List UInt8 := request.lines.flatMap (fun line => line ++ crlf) ++ crlf

end SessionRequest

section Lines

theorem wordsFit_carriage (line : List UInt8) : WordsFit (line ++ [0x0D]) ↔ WordsFit line := by
  simp only [WordsFit, scanToken_carriage, Option.mem_def, Option.map_eq_some_iff,
    forall_exists_index, and_imp, forall_apply_eq_imp_iff₂]

theorem namesSession_carriage (line : List UInt8) :
    namesSession (line ++ [0x0D]) = namesSession line := by
  have transport : ascii "Transport:" <+: line ++ [0x0D] ↔ ascii "Transport:" <+: line :=
    prefix_separator_iff (by decide)
  rw [namesSession, namesSession, hasKeyword_carriage, strstr_separator (by decide) (by decide),
    strstr_separator (by decide) (by decide)]
  simp only [transport]

theorem sessionOn_carriage (line : List UInt8) :
    sessionOn (line ++ [0x0D]) = sessionOn line := by
  rw [sessionOn, sessionOn, namesSession_carriage, scanSession_carriage]

theorem lineFits_carriage (line : List UInt8) : LineFits (line ++ [0x0D]) ↔ LineFits line := by
  rw [LineFits, LineFits, hasKeyword_carriage, wordsFit_carriage, sessionOn_carriage]

/-- A line without a keyword and without the name of the header is not a session line. -/
theorem sessionOn_quiet {line : List UInt8} (unnamed : strstr line (ascii "Session") = false) :
    sessionOn line = none := by
  have quiet : namesSession line = false := by simp [namesSession, unnamed]
  rw [sessionOn, quiet]
  rfl

theorem lineFits_quiet {line : List UInt8} (keyword : hasKeyword line = false)
    (unnamed : strstr line (ascii "Session") = false) : LineFits line := by
  rw [LineFits, keyword, sessionOn_quiet unnamed]
  constructor
  · intro loud
    cases loud
  · intro token named
    cases named

/-- The tokenizer returns the lines with their carriage returns. -/
theorem strtok_lines (lines : List (List UInt8)) (unbroken : ∀ line ∈ lines, 0x0A ∉ line)
    (rest : List UInt8) :
    strtok 0x0A (lines.flatMap (fun line => line ++ crlf) ++ rest) =
      lines.map (fun line => line ++ [0x0D]) ++ strtok 0x0A rest := by
  induction lines with
  | nil => rfl
  | cons line lines ih =>
      have shape : (line :: lines).flatMap (fun line => line ++ crlf) ++ rest =
          (line ++ [0x0D]) ++ 0x0A :: (lines.flatMap (fun line => line ++ crlf) ++ rest) := by
        simp [crlf]
      have single : 0x0A ∉ line ++ [0x0D] := by
        simpa using unbroken line List.mem_cons_self
      rw [shape, strtok_append, strtok_single _ _ (by simp) single,
        ih fun other member => unbroken other (List.mem_cons_of_mem _ member)]
      rfl

end Lines

section SessionLine

variable (randomBytes : Vector UInt8 16)

/-- A word with a character that is no digit is in no digit of the identifier. -/
theorem strstr_sessionLine {pattern : List UInt8}
    (other : ∃ character ∈ pattern, isHexDigit character = false) (oneWord : 0x20 ∉ pattern)
    (outside : ¬pattern <:+: ascii "Session:") :
    strstr (ascii "Session: " ++ generateSessionId randomBytes) pattern = false := by
  have shape : ascii "Session: " ++ generateSessionId randomBytes =
      ascii "Session:" ++ 0x20 :: generateSessionId randomBytes := rfl
  rw [strstr, decide_eq_false_iff_not, shape, infix_separator_iff oneWord, or_iff_right outside]
  intro inside
  obtain ⟨character, member, noDigit⟩ := other
  have digit := isHexDigit_generateSessionId randomBytes character (inside.subset member)
  rw [noDigit] at digit
  exact absurd digit (by decide)

theorem hasKeyword_sessionLine :
    hasKeyword (ascii "Session: " ++ generateSessionId randomBytes) = false := by
  have each : ∀ keyword ∈ keywords, (∃ character ∈ keyword, isHexDigit character = false) ∧
      0x20 ∉ keyword ∧ ¬keyword <:+: ascii "Session:" := by decide
  rw [hasKeyword, List.any_eq_false]
  intro keyword member
  obtain ⟨other, oneWord, outside⟩ := each keyword member
  rw [strstr_sessionLine randomBytes other oneWord outside]
  exact Bool.false_ne_true

theorem sessionOn_sessionLine :
    sessionOn (ascii "Session: " ++ generateSessionId randomBytes) =
      some (generateSessionId randomBytes) := by
  have number :
      strstr (ascii "Session: " ++ generateSessionId randomBytes) (ascii "CSeq") = false :=
    strstr_sessionLine randomBytes (by decide) (by decide) (by decide)
  have transport : ¬ascii "Transport:" <+: ascii "Session: " ++ generateSessionId randomBytes := by
    intro starts
    exact absurd (List.cons_prefix_cons.mp starts).1 (by decide)
  have session : strstr (ascii "Session: " ++ generateSessionId randomBytes) (ascii "Session") =
      true := decide_eq_true ((List.prefix_append (ascii "Session")
        (ascii ": " ++ generateSessionId randomBytes)).isInfix)
  have names : namesSession (ascii "Session: " ++ generateSessionId randomBytes) = true :=
    decide_eq_true ⟨hasKeyword_sessionLine randomBytes, number, transport, session⟩
  have literal : scanLiteral (ascii "Session:")
      (ascii "Session: " ++ generateSessionId randomBytes) =
        some ([0x20] ++ (generateSessionId randomBytes ++ [])) := by
    rw [List.append_nil]
    exact if_pos (List.prefix_append (ascii "Session:") ([0x20] ++ generateSessionId randomBytes))
  have blank : ∀ character ∈ [0x20], isspace character = true := by
    intro character member
    rw [List.mem_singleton.mp member]
    rfl
  have token := scanToken_append blank (Server.generateSessionId_solid randomBytes)
    (generateSessionId_ne_nil randomBytes)
    (show ∀ character ∈ ([] : List UInt8).head?, isspace character = true by simp)
  rw [sessionOn, if_pos names, scanSession, literal, Option.bind_some, token]
  rfl

theorem lineFits_sessionLine :
    LineFits (ascii "Session: " ++ generateSessionId randomBytes) := by
  rw [LineFits, hasKeyword_sessionLine, sessionOn_sessionLine]
  constructor
  · intro loud
    cases loud
  · intro token named
    cases named
    rw [generateSessionId_length]
    decide

end SessionLine

/-- The last line that gives a value stands in front of the lines that give none. -/
theorem lastRead_append {Value : Type} (read : List UInt8 → Option Value)
    (front : List (List UInt8)) {line : List UInt8} {value : Value} (gives : read line = some value)
    {back : List (List UInt8)} (quiet : ∀ other ∈ back, read other = none) :
    lastRead read (front ++ line :: back) = some value :=
  lastWrite_iff.mpr ⟨front, line, back, rfl, gives, quiet⟩

namespace SessionRequest

variable (request : SessionRequest)

theorem zero_notMem_id : 0 ∉ request.id := by
  intro zero
  exact absurd (isHexDigit_generateSessionId request.randomBytes 0 zero) (by decide)

theorem sessionLine_oneLine : OneLine request.sessionLine := by
  refine OneLine.append ⟨by decide, by decide⟩ ⟨request.zero_notMem_id, fun linefeed => ?_⟩
  exact absurd (isHexDigit_generateSessionId request.randomBytes 0x0A linefeed) (by decide)

theorem lines_oneLine : ∀ line ∈ request.lines, OneLine line := by
  have others := request.oneLine
  intro line member
  rw [lines, List.mem_cons, List.mem_append, List.mem_cons] at member
  rcases member with first | before | rfl | after
  · exact others line (by simp [first])
  · exact others line (by simp [before])
  · exact request.sessionLine_oneLine
  · exact others line (by simp [after])

theorem lines_fit : ∀ line ∈ request.lines, LineFits line := by
  have quiet (line : List UInt8) (member : line ∈ request.before ++ request.after) :
      LineFits line :=
    lineFits_quiet (request.quiet line member).1 (request.quiet line member).2
  intro line member
  rw [lines, List.mem_cons, List.mem_append, List.mem_cons] at member
  rcases member with rfl | before | rfl | after
  · exact request.fits
  · exact quiet line (List.mem_append_left _ before)
  · exact lineFits_sessionLine request.randomBytes
  · exact quiet line (List.mem_append_right _ after)

theorem zero_notMem_text : 0 ∉ request.text := by
  rw [text, List.mem_append, List.mem_flatMap]
  rintro (⟨line, member, zero⟩ | zero)
  · rcases List.mem_append.mp zero with inside | ending
    · exact (request.lines_oneLine line member).1 inside
    · exact absurd ending (by decide)
  · exact absurd zero (by decide)

theorem strtok_text :
    strtok 0x0A request.text = request.lines.map (fun line => line ++ [0x0D]) ++ [[0x0D]] := by
  rw [text, strtok_lines request.lines fun line member => (request.lines_oneLine line member).2]
  rfl

/-- The last name that the loop reads is the identifier. -/
theorem lastRead_text : lastRead sessionOn (strtok 0x0A request.text) = some request.id := by
  rw [strtok_text, lines, List.map_cons, List.map_append, List.map_cons]
  have shape (first : List UInt8) (before after : List (List UInt8)) (line : List UInt8) :
      first :: (before ++ line :: after) ++ [[0x0D]] =
        (first :: before) ++ line :: (after ++ [[0x0D]]) := by simp
  rw [shape]
  refine lastRead_append sessionOn _ ?_ fun other member => ?_
  · rw [sessionOn_carriage]
    exact sessionOn_sessionLine request.randomBytes
  · rcases List.mem_append.mp member with after | empty
    · obtain ⟨line, inside, rfl⟩ := List.mem_map.mp after
      rw [sessionOn_carriage]
      exact sessionOn_quiet (request.quiet line (List.mem_append_right _ inside)).2
    · rw [List.mem_singleton.mp empty]
      decide

end SessionRequest

theorem any_namesSession {lines : List (List UInt8)} {value : List UInt8}
    (named : lastRead sessionOn lines = some value) : lines.any namesSession = true := by
  obtain ⟨line, member, reads⟩ := lastWrite_mem named
  refine List.any_eq_true.mpr ⟨line, member, ?_⟩
  by_contra unnamed
  rw [sessionOn, if_neg unnamed] at reads
  cases reads

/-- The loop stays inside its arrays and takes the identifier of the request. -/
theorem checkedRequest_session (request : SessionRequest) (received : Received)
    (text : received.bytes = request.text) (room : request.text.length < BUF_MAX_SIZE)
    (surroundings : Surroundings) (handler : RtspHandler) :
    ∃ scanned, checkedRequest received surroundings handler = some (.finished scanned) ∧
      scanned.handler.session_ = request.id ∧
      scanned.handler.sessionManager_ = handler.sessionManager_ := by
  have terminated : Terminated received := Or.inl (by rw [text]; exact room)
  have whole : cstring received.bytes = request.text := by
    have solid := cstring_append request.zero_notMem_text []
    rw [List.append_nil, show cstring [] = [] from rfl, List.append_nil] at solid
    rw [text, solid]
  have fits : ∀ line ∈ bufferLines received, LineFits line := by
    rw [bufferLines, whole, request.strtok_text]
    intro line member
    rcases List.mem_append.mp member with inside | empty
    · obtain ⟨other, there, rfl⟩ := List.mem_map.mp inside
      exact (lineFits_carriage other).mpr (request.lines_fit other there)
    · rw [List.mem_singleton.mp empty]
      decide
  have ends := checkedRequest_terminated surroundings handler terminated
  rw [if_pos fits] at ends
  have read := parseRequest_read received.bytes surroundings handler
  rw [receivedText, bufferText_terminated surroundings terminated, whole] at read
  refine ⟨_, ends, ?_, ?_⟩
  · rw [read.handler]
    dsimp only
    rw [if_pos (any_namesSession request.lastRead_text), read.recv_session, request.lastRead_text]
    rfl
  · rw [read.handler]
    rfl

/-- The identifier keeps its bytes, and the parser finds the session that was stored under it. -/
theorem sessionId_survives (request : SessionRequest) (received : Received)
    (text : received.bytes = request.text) (room : request.text.length < BUF_MAX_SIZE)
    (surroundings : Surroundings) (handler : RtspHandler) (sess : Session)
    (registered : handler.sessionManager_.getSession request.id = some sess) :
    request.id.length = 32 ∧ (∀ digit ∈ request.id, isHexDigit digit = true) ∧
      hexToBytes request.id = some request.randomBytes.toList ∧
      (∀ randomBytes, generateSessionId randomBytes = request.id →
        randomBytes = request.randomBytes) ∧
      ∃ scanned, checkedRequest received surroundings handler = some (.finished scanned) ∧
        scanned.handler.session_ = request.id ∧
        scanned.handler.sessionManager_.getSession scanned.handler.session_ = some sess := by
  obtain ⟨scanned, ends, named, kept⟩ :=
    checkedRequest_session request received text room surroundings handler
  refine ⟨generateSessionId_length _, isHexDigit_generateSessionId _, hexToBytes_bytesToHex _,
    fun _ same => generateSessionId_injective same, scanned, ends, named, ?_⟩
  rw [kept, named]
  exact registered

/-- A client plays the session of an earlier request. -/
def playRequest : SessionRequest where
  requestLine := ascii "PLAY rtsp://host/live RTSP/1.0"
  before := [ascii "CSeq: 4"]
  randomBytes := Vector.replicate 16 0xA7
  after := [ascii "Range: npt=0.000-"]
  oneLine := by
    unfold OneLine
    decide
  fits := by decide
  quiet := by decide

theorem sessionId_survives_playRequest :
    let drawn : Surroundings :=
      { Server.emptySurroundings with randomBytes := playRequest.randomBytes }
    let setUp := (setupFirst drawn ⟨5, [], [], .empty, .empty⟩ 3 .empty).handler
    let sess := (Session.create drawn.heapState 5 [] .NONE).setInfo .video drawn.attr
    playRequest.id.length = 32 ∧ (∀ digit ∈ playRequest.id, isHexDigit digit = true) ∧
      hexToBytes playRequest.id = some playRequest.randomBytes.toList ∧
      (∀ randomBytes, generateSessionId randomBytes = playRequest.id →
        randomBytes = playRequest.randomBytes) ∧
      ∃ scanned, checkedRequest ⟨playRequest.text, by decide +kernel⟩ drawn setUp =
          some (.finished scanned) ∧
        scanned.handler.session_ = playRequest.id ∧
        scanned.handler.sessionManager_.getSession scanned.handler.session_ = some sess :=
  sessionId_survives playRequest ⟨playRequest.text, by decide +kernel⟩ rfl (by decide +kernel) _ _ _
    (getSession_addSession _ _ _)

end FzServer.Parsing
