import FzServer.Proof.Reply.Reader

/-
This file shows which builders write one framed response.
-/

namespace FzServer.Replies

open Foundation Sessions Rtsp

/-- Most of the builders leave a blank behind the reason. -/
def okLine : List UInt8 := ascii "RTSP/1.0 200 OK "

def optionsReply (CSeq : Int) : Message :=
  replyMessage okLine CSeq
    [(ascii "Public", ascii "OPTIONS, DESCRIBE, SETUP, PLAY, PAUSE, TEARDOWN")] []

def describeReply (time : Int) (localIp : List UInt8) (CSeq : Int) (url : List UInt8) : Message :=
  let sdp := sessionDescription time (scanLocalIp url localIp)
  replyMessage (ascii "RTSP/1.0 200 OK") CSeq
    [(ascii "Content-Base", url), (ascii "Content-type", ascii "application/sdp"),
      (ascii "Content-length", decimal sdp.length)] sdp

/-- The text `channels` names the interleaved pair. -/
def setupReply (channels : List UInt8) (CSeq : Int) (session_ : List UInt8) : Message :=
  replyMessage okLine CSeq
    [(ascii "Transport", ascii "RTP/AVP/TCP;unicast;interleaved=" ++ channels),
      (ascii "Session", session_)] []

def playReply (CSeq : Int) (session_ : List UInt8) : Message :=
  replyMessage okLine CSeq
    [(ascii "Range", ascii "npt=0.000-"), (ascii "Session", session_ ++ ascii "; timeout=10")] []

def pauseReply (gmtTime : List UInt8) (CSeq : Int) : Message :=
  replyMessage okLine CSeq [(ascii "Date", gmtTime)] []

def teardownReply (CSeq : Int) : Message := replyMessage okLine CSeq [] []

/-- A reply without a body announces no length. -/
theorem responds_of_fields (text start : List UInt8) (CSeq : Int)
    (fields : List (List UInt8 × List UInt8))
    (shape : text = (replyMessage start CSeq fields []).encode)
    (protocol : ascii "RTSP/1.0 " <+: start) (unbroken : 0x0A ∉ start)
    (plain : ∀ field ∈ fields, PlainField field)
    (silent : ∀ field ∈ fields, lowercase field.1 ≠ lowercase (ascii "Content-length")) :
    Responds text CSeq (replyMessage start CSeq fields []) := by
  rw [shape]
  exact replyMessage_responds start CSeq [] protocol unbroken plain
    (bodyLength_replyMessage start CSeq [] plain silent)

variable (CSeq : Int)

theorem OPTIONS_responds : Responds (handleCmd_OPTIONS CSeq) CSeq (optionsReply CSeq) := by
  apply responds_of_fields
  · simp [handleCmd_OPTIONS, replyMessage, Message.encode, encodeLines, fieldLine, crlf, okLine,
      ascii]
  · decide
  · decide
  · simp [PlainField, ascii]
  · simp [ascii, lowercase]

theorem TEARDOWN_responds : Responds (handleCmd_TEARDOWN CSeq) CSeq (teardownReply CSeq) := by
  apply responds_of_fields
  · simp [handleCmd_TEARDOWN, replyMessage, Message.encode, encodeLines, fieldLine, crlf, okLine,
      ascii]
  · decide
  · decide
  · simp
  · simp

theorem PAUSE_responds {gmtTime : List UInt8} (unbroken : 0x0A ∉ gmtTime) :
    Responds (handleCmd_PAUSE gmtTime CSeq) CSeq (pauseReply gmtTime CSeq) := by
  apply responds_of_fields
  · simp [handleCmd_PAUSE, replyMessage, Message.encode, encodeLines, fieldLine, crlf, okLine,
      ascii]
  · decide
  · decide
  · simpa [PlainField, ascii] using unbroken
  · simp [ascii, lowercase]

theorem PLAY_responds {session_ : List UInt8} (unbroken : 0x0A ∉ session_) :
    Responds (handleCmd_PLAY CSeq session_) CSeq (playReply CSeq session_) := by
  apply responds_of_fields
  · simp [handleCmd_PLAY, replyMessage, Message.encode, encodeLines, fieldLine, crlf, okLine, ascii]
  · decide
  · decide
  · simpa [PlainField, ascii] using unbroken
  · simp [ascii, lowercase]

/-- The two announcements differ in their pair of channels. -/
theorem SETUP_responds (sBuf : List UInt8) {session_ : List UInt8} (unbroken : 0x0A ∉ session_) :
    Responds (handleCmd_SETUP_TCP sBuf 3 session_) 3 (setupReply (ascii "0-1") 3 session_) ∧
      Responds (handleCmd_SETUP_TCP sBuf 4 session_) 4 (setupReply (ascii "2-3") 4 session_) := by
  constructor
  all_goals
    apply responds_of_fields
    · simp [handleCmd_SETUP_TCP, replyMessage, Message.encode, encodeLines, fieldLine, crlf, okLine,
        ascii]
    · decide
    · decide
    · simpa [PlainField, ascii] using unbroken
    · simp [ascii, lowercase]

/-- The announced length is that of the description. -/
theorem DESCRIBE_responds (time : Int) (localIp : List UInt8) {url : List UInt8}
    (unbroken : 0x0A ∉ url) :
    Responds (handleCmd_DESCRIBE time localIp CSeq url) CSeq
      (describeReply time localIp CSeq url) := by
  let sdp := sessionDescription time (scanLocalIp url localIp)
  have plain : ∀ field ∈ [(ascii "Content-Base", url),
      (ascii "Content-type", ascii "application/sdp"),
      (ascii "Content-length", decimal sdp.length)], PlainField field := by
    have digits := decimal_unbroken sdp.length
    simpa [PlainField, ascii, digits] using unbroken
  have announced : bodyLength (describeReply time localIp CSeq url).lines = some sdp.length := by
    have found : fieldOf (ascii "Content-length") (describeReply time localIp CSeq url).lines =
        some ((decimal sdp.length).dropWhile isspace) := by
      have found := fieldOf_replyMessage (ascii "RTSP/1.0 200 OK") CSeq sdp (ascii "Content-length")
        (by decide) plain
      rw [Message.field] at found
      rw [describeReply, found]
      simp [ascii, lowercase, sdp]
    have digits := printed_digits sdp.length
    have whole : (decimal sdp.length).dropWhile isspace = printed sdp.length := by
      rw [decimal_natCast]
      cases shape : printed sdp.length with
      | nil => rfl
      | cons digit rest =>
          rw [shape] at digits
          rw [List.dropWhile_cons_of_neg]
          rw [isspace_of_isdigit (digits digit List.mem_cons_self)]
          exact Bool.false_ne_true
    rw [whole] at found
    rw [bodyLength_some found (printed_ne_nil _) digits, decimalValue_printed]
  have text : handleCmd_DESCRIBE time localIp CSeq url =
      (describeReply time localIp CSeq url).encode := by
    simp [handleCmd_DESCRIBE, describeReply, replyMessage, Message.encode, encodeLines, fieldLine,
      crlf, ascii]
  rw [text]
  exact replyMessage_responds _ CSeq sdp (by decide) (by decide) plain announced

end FzServer.Replies
