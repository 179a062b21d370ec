import FzServer.Proof.Parsing.RequestText

/-
This file says what the parse loop does with each line of a well-formed request.
-/

namespace FzServer.Parsing

open Foundation Sessions Rtsp

section RequestLine

variable (request : RequestLines)

theorem hasKeyword_requestLine : hasKeyword request.requestLine = true := by
  have known : request.method.text ∈ keywords := by
    cases request.method <;> decide
  have starts : request.method.text <+: request.requestLine := List.prefix_append _ _
  rw [hasKeyword, List.any_eq_true]
  exact ⟨request.method.text, known, decide_eq_true starts.isInfix⟩

/-- The spaces keep the url apart from the other two words. -/
theorem strstr_requestLine {pattern : List UInt8} (oneWord : 0x20 ∉ pattern)
    (inMethod : ¬ pattern <:+: request.method.text)
    (inVersion : ¬ pattern <:+: ascii "RTSP/1.0") :
    strstr request.requestLine pattern = strstr request.url.text pattern := by
  rw [strstr, strstr, decide_eq_decide, RequestLines.requestLine, infix_separator_iff oneWord,
    infix_separator_iff oneWord, or_iff_right inMethod, or_iff_left inVersion]

theorem setTracks_requestLine (clientFd : Nat) (manager : ClientFdManager) :
    setTracks request.requestLine clientFd manager =
      setTracks request.url.text clientFd manager := by
  have absent0 : ¬ ascii "track0" <:+: request.method.text := by
    cases request.method <;> decide
  have absent1 : ¬ ascii "track1" <:+: request.method.text := by
    cases request.method <;> decide
  rw [setTracks, setTracks, strstr_requestLine request (by decide) absent0 (by decide),
    strstr_requestLine request (by decide) absent1 (by decide)]

theorem scanRequestLine_requestLine (scanned : Scanned) :
    scanRequestLine request.requestLine scanned =
      { scanned with
        method := request.method.text
        url := request.url.text
        version := ascii "RTSP/1.0" } := by
  have method : scanToken ([] ++ (request.method.text ++
      ([0x20] ++ (request.url.text ++ 0x20 :: ascii "RTSP/1.0")))) =
        some (request.method.text, [0x20] ++ (request.url.text ++ 0x20 :: ascii "RTSP/1.0")) := by
    apply scanToken_append
    · simp
    · cases request.method <;> simp [Method.text, ascii, isspace]
    · cases request.method <;> decide
    · simp [isspace]
  have url : scanToken ([0x20] ++ (request.url.text ++ 0x20 :: ascii "RTSP/1.0")) =
      some (request.url.text, 0x20 :: ascii "RTSP/1.0") := by
    apply scanToken_append
    · simp [isspace]
    · exact fun character member => (request.url.solid character member).1
    · exact request.url.nonempty
    · simp [isspace]
  have version : scanToken (0x20 :: ascii "RTSP/1.0") = some (ascii "RTSP/1.0", []) := by decide
  rw [scanRequestLine, show scanToken request.requestLine = _ from method]
  simp only [url, version]

/-- The request line decides the method, the url and the track. -/
theorem parseLine_requestLine (scanned : Scanned) :
    parseLine scanned request.requestLine =
      { scanned.setTracks request.url.text with
        method := request.method.text
        url := request.url.text
        version := ascii "RTSP/1.0" } := by
  rw [parseLine, if_pos (hasKeyword_requestLine request), scanRequestLine_requestLine,
    Scanned.setTracks, Scanned.setTracks, setTracks_requestLine]

end RequestLine

namespace Header

variable (header : Header)

theorem scanLiteral_line {literal : List UInt8} (oneWord : 0x3A ∉ literal) :
    scanLiteral (literal ++ [0x3A]) header.line =
      if header.name = literal then some header.value else none := by
  rw [scanLiteral]
  simp only [header.literal_line_iff oneWord]
  by_cases named : header.name = literal
  · have behind : (header.line).drop (literal ++ [0x3A]).length = header.value := by
      rw [line, named, List.append_cons literal _ header.value, List.drop_left]
    rw [if_pos named, if_pos named, behind]
  · rw [if_neg named, if_neg named]

theorem scanCSeq_line :
    scanCSeq header.line = header.sequenceNumber.map fun number : Nat => storeInt number := by
  rw [scanCSeq, show ascii "CSeq:" = ascii "CSeq" ++ [0x3A] by decide,
    scanLiteral_line header (by decide)]
  cases header with
  | cseq blanks number =>
      rw [name, if_pos rfl]
      exact scanInt_digits blanks.isspace number.digits number.nonempty
  | session => rfl
  | other name value oneWord ordinary => exact if_neg ordinary.1 ▸ rfl

theorem scanSession_line : scanSession header.line = header.sessionValue := by
  rw [scanSession, show ascii "Session:" = ascii "Session" ++ [0x3A] by decide,
    scanLiteral_line header (by decide)]
  cases header with
  | cseq => rfl
  | session blanks value =>
      have found : scanToken (blanks.text ++ (value.text ++ [])) = some (value.text, []) := by
        apply scanToken_append blanks.isspace
        · exact fun character member => (value.solid character member).1
        · exact value.nonempty
        · simp
      rw [List.append_nil] at found
      rw [name, if_pos rfl, Option.bind_some, Header.value, found]
      rfl
  | other name value oneWord ordinary => exact if_neg ordinary.2 ▸ rfl

theorem cseq_line (blanks : Blanks) (number : Digits) :
    strstr (cseq blanks number).line (ascii "CSeq") = true :=
  decide_eq_true (List.prefix_append _ _).isInfix

theorem session_line (blanks : Blanks) (value : Token) (fits : value.text.length < 40) :
    strstr (session blanks value fits).line (ascii "Session") = true :=
  decide_eq_true (List.prefix_append _ _).isInfix

/-- A line of the sequence number branch gives no session identifier. -/
def readSession : Option (List UInt8) :=
  if strstr header.line (ascii "CSeq") then none else header.sessionValue

theorem selectsSession_of_readSession (read : header.readSession ≠ none) :
    header.selectsSession = true := by
  rw [readSession] at read
  by_cases numbered : strstr header.line (ascii "CSeq") = true
  · exact absurd (if_pos numbered) read
  · rw [if_neg numbered] at read
    cases header with
    | cseq => exact absurd rfl read
    | other => exact absurd rfl read
    | session blanks value fits =>
        have transport : ¬ ascii "Transport:" <+: (session blanks value fits).line := by
          rw [show ascii "Transport:" = ascii "Transport" ++ [0x3A] by decide,
            literal_line_iff _ (by decide), name]
          decide
        exact decide_eq_true
          ⟨session_line blanks value fits, Bool.eq_false_iff.mpr numbered, transport⟩

end Header

/-- A header without a keyword decides at most the number and the session. -/
theorem readHeader_quiet (scanned : Scanned) {header : Header}
    (quiet : hasKeyword header.line = false) :
    readHeader scanned header =
      { scanned with
        CSeq := (header.sequenceNumber.map fun number : Nat => storeInt number).getD scanned.CSeq
        recv_session := header.readSession.getD scanned.recv_session
        handler := { scanned.handler with
          session_ :=
            if header.selectsSession then header.readSession.getD scanned.recv_session
            else scanned.handler.session_ } } := by
  have noKeyword : ¬ hasKeyword header.line = true := Bool.eq_false_iff.mp quiet
  rw [readHeader, parseLine, if_neg noKeyword, header.scanCSeq_line]
  by_cases numbered : strstr header.line (ascii "CSeq") = true
  · have noSession : header.selectsSession = false := by
      simp [Header.selectsSession, numbered]
    rw [if_pos numbered, noSession, Header.readSession, if_pos numbered]
    rfl
  · have noNumber : header.sequenceNumber = none := by
      cases header with
      | cseq blanks number => exact absurd (Header.cseq_line blanks number) numbered
      | session => rfl
      | other => rfl
    rw [if_neg numbered, noNumber, Header.readSession, if_neg numbered]
    by_cases selects : header.selectsSession = true
    · have branch := of_decide_eq_true selects
      rw [if_neg branch.2.2, if_pos branch.1, if_pos selects, Scanned.setSession,
        header.scanSession_line]
      rfl
    · have noSession : header.sessionValue = none := by
        by_contra found
        apply selects
        apply Header.selectsSession_of_readSession
        rwa [Header.readSession, if_neg numbered]
      rw [if_neg selects, noSession]
      by_cases transport : ascii "Transport:" <+: header.line
      · rw [if_pos transport]
        rfl
      · have noName : ¬ strstr header.line (ascii "Session") = true := fun named =>
          selects (decide_eq_true ⟨named, Bool.eq_false_iff.mpr numbered, transport⟩)
        rw [if_neg transport, if_neg noName]
        rfl

end FzServer.Parsing
