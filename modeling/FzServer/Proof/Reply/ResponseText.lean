import FzServer.Proof.Reply.Reader

/-
This file reads the built responses back.
-/

namespace FzServer.Replies

open Foundation Rtsp

/-- A line break joins two lines, and another one may end the text. -/
def headerText (lines : List (List UInt8)) (ended : Bool) : List UInt8 :=
  crlf.intercalate lines ++ if ended then crlf else []

/-- The line holds characters, and none of them breaks it. -/
def HeaderLine (line : List UInt8) : Prop := line ≠ [] ∧ 0x0D ∉ line ∧ 0x0A ∉ line

instance (line : List UInt8) : Decidable (HeaderLine line) :=
  inferInstanceAs (Decidable (_ ∧ _ ∧ _))

/-- The code of a status line stands behind the protocol. -/
def statusCode (line : List UInt8) : Option Int :=
  (scanLiteral (ascii "RTSP/1.0") line).bind scanNumber

/-- These are the parts of a response without its reason. -/
structure Response where
  code : Int
  cseq : Int
  lines : List (List UInt8)
  body : List UInt8
  deriving DecidableEq

/-- The first empty line separates the head from the body. -/
def readResponse (text : List UInt8) : Option Response :=
  (readHead [] [] text).bind fun head =>
    match head.1 with
    | status :: number :: lines =>
        (statusCode status).bind fun code =>
          ((fieldValue (ascii "CSeq") number).bind scanNumber).map fun cseq =>
            ⟨code, cseq, lines, head.2⟩
    | _ => none

def builtStatusLine (code : Int) : List UInt8 :=
  ascii "RTSP/1.0 " ++ decimal code ++ ascii " " ++ ascii (reasonPhrase code)

def builtNumberLine (cseq : Int) : List UInt8 := ascii "CSeq: " ++ decimal cseq

section HeaderText

variable {lines : List (List UInt8)}

/-- A text with a final line break ends each of its lines. -/
theorem headerText_ended (nonempty : lines ≠ []) : headerText lines true = encodeLines lines := by
  rw [headerText, if_pos rfl]
  induction lines with
  | nil => exact absurd rfl nonempty
  | cons line lines ih =>
      cases lines with
      | nil => simp [encodeLines, crlf]
      | cons next lines =>
          have tail := ih (List.cons_ne_nil _ _)
          rw [List.intercalate_cons_cons, List.append_assoc, List.append_assoc, tail]
          simp [encodeLines, crlf]

/-- Without the final line break the text ends with a line. -/
theorem headerText_open (nonempty : lines ≠ []) :
    ∃ front, ∃ last ∈ lines, headerText lines false = front ++ last := by
  simp only [headerText, Bool.false_eq_true, if_false, List.append_nil]
  induction lines with
  | nil => exact absurd rfl nonempty
  | cons line lines ih =>
      cases lines with
      | nil => exact ⟨[], line, List.mem_cons_self, List.intercalate_singleton⟩
      | cons next lines =>
          obtain ⟨front, last, member, shape⟩ := ih (List.cons_ne_nil _ _)
          refine ⟨line ++ crlf ++ front, last, List.mem_cons_of_mem _ member, ?_⟩
          rw [List.intercalate_cons_cons, shape, List.append_assoc, List.append_assoc,
            List.append_assoc]

/-- The last character of a line is no line feed. -/
theorem crlf_not_suffix (solid : ∀ line ∈ lines, HeaderLine line) (nonempty : lines ≠ []) :
    ¬crlf <:+ headerText lines false := by
  obtain ⟨front, last, member, shape⟩ := headerText_open nonempty
  obtain ⟨filled, _, unbroken⟩ := solid last member
  rintro ⟨start, same⟩
  rw [shape] at same
  have final := congrArg List.getLast? same
  rw [List.getLast?_append_of_ne_nil start (show crlf ≠ [] from List.cons_ne_nil _ _),
    List.getLast?_append_of_ne_nil front filled] at final
  exact unbroken (List.mem_of_getLast? final.symm)

/-- The function adds the line break that is missing. -/
theorem headerLines_headerText (solid : ∀ line ∈ lines, HeaderLine line) {ended : Bool}
    (announced : ended = true → lines ≠ []) :
    headerLines (headerText lines ended) = encodeLines lines := by
  by_cases empty : lines = []
  · subst empty
    cases ended with
    | true => exact absurd rfl (announced rfl)
    | false => rfl
  · have closed := headerText_ended empty
    have filled (choice : Bool) : headerText lines choice ≠ [] := by
      obtain ⟨line, rest, rfl⟩ := List.exists_cons_of_ne_nil empty
      obtain ⟨character, others, rfl⟩ :=
        List.exists_cons_of_ne_nil (solid line List.mem_cons_self).1
      cases rest <;> simp [headerText, List.intercalate_cons_cons]
    cases ended with
    | true =>
        have suffix : crlf <:+ headerText lines true := List.suffix_append _ _
        rw [headerLines, if_neg (filled true), if_pos suffix, closed]
    | false =>
        rw [headerLines, if_neg (filled false), if_neg (crlf_not_suffix solid empty), ← closed]
        simp [headerText]

end HeaderText

section Response

variable (code cseq : Int)

theorem reasonPhrase_unbroken : 0x0A ∉ ascii (reasonPhrase code) := by
  rw [reasonPhrase]
  split_ifs <;> decide

theorem statusCode_builtStatusLine : statusCode (builtStatusLine code) = some code := by
  have shape : builtStatusLine code =
      ascii "RTSP/1.0" ++ 0x20 :: (decimal code ++ 0x20 :: ascii (reasonPhrase code)) := by
    simp [builtStatusLine, ascii]
  have literal (rest : List UInt8) :
      scanLiteral (ascii "RTSP/1.0") (ascii "RTSP/1.0" ++ rest) = some rest :=
    if_pos (List.prefix_append (ascii "RTSP/1.0") rest)
  have blank (text : List UInt8) : scanNumber (0x20 :: text) = scanNumber text := by
    rw [← scanNumber_dropWhile, ← scanNumber_dropWhile text]
    rfl
  rw [shape, statusCode, literal, Option.bind_some, blank]
  apply scanNumber_append
  simp [isdigit]

theorem number_builtNumberLine :
    (fieldValue (ascii "CSeq") (builtNumberLine cseq)).bind scanNumber = some cseq := by
  have line : builtNumberLine cseq = fieldLine (ascii "CSeq") (decimal cseq) := rfl
  rw [line, fieldValue_fieldLine _ _ (by decide), if_pos rfl, Option.bind_some,
    scanNumber_dropWhile, scanNumber_decimal]

variable {headers : List UInt8} {lines : List (List UInt8)} (body : List UInt8)

/-- A header text of whole lines ends in front of the empty line. -/
theorem readHead_generateResponse (solid : ∀ line ∈ lines, HeaderLine line)
    (whole : headerLines headers = encodeLines lines) :
    readHead [] [] (generateResponse code cseq headers body) =
      some (builtStatusLine code :: builtNumberLine cseq :: lines, body) := by
  have shape : generateResponse code cseq headers body =
      encodeLines (builtStatusLine code :: builtNumberLine cseq :: lines) ++
        0x0D :: 0x0A :: body := by
    rw [generateResponse, whole]
    simp [builtStatusLine, builtNumberLine, encodeLines, crlf]
  rw [shape, readHead_lines, List.reverse_nil, List.nil_append]
  intro line member
  rw [List.mem_cons, List.mem_cons] at member
  rcases member with rfl | rfl | member
  · refine ⟨by simp [builtStatusLine, ascii], ?_⟩
    simp only [builtStatusLine, List.mem_append, not_or]
    exact ⟨⟨⟨by decide, decimal_unbroken code⟩, by decide⟩, reasonPhrase_unbroken code⟩
  · refine ⟨by simp [builtNumberLine, ascii], ?_⟩
    rw [builtNumberLine, List.mem_append, not_or]
    exact ⟨by decide, decimal_unbroken cseq⟩
  · obtain ⟨filled, _, unbroken⟩ := solid line member
    exact ⟨filled, unbroken⟩

theorem readResponse_generateResponse (solid : ∀ line ∈ lines, HeaderLine line)
    (whole : headerLines headers = encodeLines lines) :
    readResponse (generateResponse code cseq headers body) = some ⟨code, cseq, lines, body⟩ := by
  rw [readResponse, readHead_generateResponse code cseq body solid whole, Option.bind_some]
  dsimp only
  rw [statusCode_builtStatusLine, Option.bind_some, number_builtNumberLine]
  rfl

/-- A reader finds all the parts, and the final line break of the header text changes nothing. -/
theorem generateResponse_parsed (solid : ∀ line ∈ lines, HeaderLine line) (ended : Bool)
    (announced : ended = true → lines ≠ []) :
    readHead [] [] (generateResponse code cseq (headerText lines ended) body) =
        some (builtStatusLine code :: builtNumberLine cseq :: lines, body) ∧
      readResponse (generateResponse code cseq (headerText lines ended) body) =
        some ⟨code, cseq, lines, body⟩ ∧
      generateResponse code cseq (headerText lines ended) body =
        generateResponse code cseq (headerText lines false) body ∧
      ∀ named : RtspStatusCode, named.value = code →
        generateRtspResponse named cseq (headerText lines ended) body =
          generateResponse code cseq (headerText lines ended) body := by
  have whole := headerLines_headerText solid announced
  have closed : headerLines (headerText lines false) = encodeLines lines :=
    headerLines_headerText solid fun impossible => absurd impossible Bool.false_ne_true
  refine ⟨readHead_generateResponse code cseq body solid whole,
    readResponse_generateResponse code cseq body solid whole, ?_, ?_⟩
  · rw [generateResponse, generateResponse, whole, closed]
  · rintro named rfl
    rw [generateResponse_value]

end Response

theorem generateResponse_parsed_server :
    let lines := [ascii "Server: MyRtspServer/1.0"]
    let body := ascii "first\r\n\r\nsecond"
    readHead [] [] (generateResponse 501 4 (headerText lines true) body) =
        some (builtStatusLine 501 :: builtNumberLine 4 :: lines, body) ∧
      readResponse (generateResponse 501 4 (headerText lines true) body) =
        some ⟨501, 4, lines, body⟩ ∧
      generateResponse 501 4 (headerText lines true) body =
        generateResponse 501 4 (headerText lines false) body ∧
      ∀ named : RtspStatusCode, named.value = 501 →
        generateRtspResponse named 4 (headerText lines true) body =
          generateResponse 501 4 (headerText lines true) body :=
  generateResponse_parsed 501 4 (ascii "first\r\n\r\nsecond") (by decide) true
    fun _ => List.cons_ne_nil _ _

/-- A line break without a line stands in front of the body. -/
theorem readResponse_loneBreak (code cseq : Int) (body : List UInt8) :
    readResponse (generateResponse code cseq (headerText [] true) body) =
      some ⟨code, cseq, [], crlf ++ body⟩ := by
  have shifted : generateResponse code cseq (headerText [] true) body =
      generateResponse code cseq [] (crlf ++ body) := by
    simp [generateResponse, headerText, headerLines]
  rw [shifted]
  exact readResponse_generateResponse code cseq (crlf ++ body) (by simp) rfl

/-- Without a line, the final line break changes the response. -/
theorem loneBreak_misread :
    ¬∀ (code cseq : Int) (lines : List (List UInt8)), (∀ line ∈ lines, HeaderLine line) →
      ∀ (ended : Bool) (body : List UInt8),
        readResponse (generateResponse code cseq (headerText lines ended) body) =
            some ⟨code, cseq, lines, body⟩ ∧
          generateResponse code cseq (headerText lines ended) body =
            generateResponse code cseq (headerText lines false) body := by
  intro always
  have read := (always 200 1 [] (by simp) true []).1
  rw [readResponse_loneBreak] at read
  exact absurd read (by decide)

end FzServer.Replies
