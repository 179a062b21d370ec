import FzServer.Foundation.Decimal
import FzServer.Foundation.MessageFraming
import FzServer.Proof.Parsing.Reading
import FzServer.Proof.Reply.Status
import FzServer.Proof.Session.Requests
import Mathlib.Data.List.DropRight

/-
This file reads the replies as a client does.
-/

namespace FzServer.Replies

open Foundation Sessions Rtsp Server Parsing

/-- A line with a sequence number gives the whole number, even when an `int` cannot hold it. -/
def integerOn (line : List UInt8) : Option Int :=
  if numbersRequest line then (scanLiteral (ascii "CSeq:") line).bind scanNumber else none

/-- This is the sequence number that the client wrote. -/
def requestNumber (lines : List (List UInt8)) : Option Int := lastRead integerOn lines

theorem numberOn_eq (line : List UInt8) : numberOn line = (integerOn line).map storeInt := by
  rw [numberOn, integerOn]
  split_ifs
  · rw [scanCSeq, Option.map_bind]
    congr 1
    funext text
    exact scanInt_eq text
  · rfl

/-- The server stores the number that the client wrote. -/
theorem lastRead_numberOn (lines : List (List UInt8)) :
    lastRead numberOn lines = (requestNumber lines).map storeInt := by
  rw [requestNumber, lastRead, lastRead, funext numberOn_eq, ← List.map_filterMap,
    List.getLast?_map]

/-- This is the first line of a response. -/
def statusLine (message : Message) : List UInt8 := message.lines.headD []

/-- This is the sequence number of a response. -/
def responseNumber (message : Message) : Option Int :=
  (message.field (ascii "CSeq")).bind scanNumber

/-- The text is one response with this number and nothing else. -/
structure Responds (text : List UInt8) (CSeq : Int) (message : Message) : Prop where
  valid : messageCodec.Valid message
  encodes : messageCodec.encode message = text
  protocol : ascii "RTSP/1.0 " <+: statusLine message
  number : responseNumber message = some CSeq

/-- Every reply starts with a status line and the sequence number. -/
def replyMessage (start : List UInt8) (CSeq : Int) (fields : List (List UInt8 × List UInt8))
    (body : List UInt8) : Message where
  lines := start :: fieldLine (ascii "CSeq") (decimal CSeq) ::
    fields.map fun field => fieldLine field.1 field.2
  body := body

/-- No byte of the field breaks its line. -/
def PlainField (field : List UInt8 × List UInt8) : Prop :=
  0x3A ∉ field.1 ∧ 0x0A ∉ field.1 ∧ 0x0A ∉ field.2

theorem decimal_unbroken (value : Int) : 0x0A ∉ decimal value := by
  have digits : 0x0A ∉ (Nat.toDigits 10 value.natAbs).map fun digit => UInt8.ofNat digit.toNat :=
    fun member => absurd (printed_digits _ _ member) (by decide)
  rw [decimal, List.mem_append]
  rintro (sign | digit)
  · split_ifs at sign
    · exact absurd sign (by decide)
    · exact absurd sign (by simp)
  · exact digits digit

theorem fieldLine_unbroken (field : List UInt8 × List UInt8) (plain : PlainField field) :
    fieldLine field.1 field.2 ≠ [] ∧ 0x0A ∉ fieldLine field.1 field.2 := by
  constructor
  · rw [fieldLine]
    exact List.append_ne_nil_of_right_ne_nil _ (List.cons_ne_nil _ _)
  · simp [fieldLine, plain.2.1, plain.2.2]

/-- A blank in front of a number is not read. -/
theorem scanNumber_dropWhile (text : List UInt8) :
    scanNumber (text.dropWhile isspace) = scanNumber text := by
  rw [scanNumber, scanNumber, List.dropWhile_idempotent]

section Reply

variable (start : List UInt8) (CSeq : Int) {fields : List (List UInt8 × List UInt8)}
  (body : List UInt8)

/-- The number stands in the first field. -/
theorem responseNumber_replyMessage :
    responseNumber (replyMessage start CSeq fields body) = some CSeq := by
  have found : fieldValue (ascii "CSeq") (fieldLine (ascii "CSeq") (decimal CSeq)) =
      some ((decimal CSeq).dropWhile isspace) := by
    rw [fieldValue_fieldLine _ _ (by decide), if_pos rfl]
  rw [responseNumber, Message.field, fieldOf, replyMessage, List.tail_cons,
    List.findSome?_cons, found, Option.bind_some, scanNumber_dropWhile, scanNumber_decimal]

/-- The other fields are found behind the number. -/
theorem fieldOf_replyMessage (name : List UInt8) (other : lowercase name ≠ lowercase (ascii "CSeq"))
    (plain : ∀ field ∈ fields, PlainField field) :
    (replyMessage start CSeq fields body).field name =
      fields.findSome? fun field =>
        if lowercase field.1 = lowercase name then some (field.2.dropWhile isspace) else none := by
  have missed : fieldValue name (fieldLine (ascii "CSeq") (decimal CSeq)) = none := by
    rw [fieldValue_fieldLine _ _ (by decide), if_neg (Ne.symm other)]
  rw [Message.field, fieldOf, replyMessage, List.tail_cons, List.findSome?_cons, missed]
  induction fields with
  | nil => rfl
  | cons field fields ih =>
      rw [List.map_cons, List.findSome?_cons, List.findSome?_cons,
        fieldValue_fieldLine _ _ (plain field List.mem_cons_self).1]
      split_ifs
      · rfl
      · exact ih fun other member => plain other (List.mem_cons_of_mem _ member)

/-- A reply is a response when its lines are plain and its length is announced. -/
theorem replyMessage_responds (protocol : ascii "RTSP/1.0 " <+: start) (unbroken : 0x0A ∉ start)
    (plain : ∀ field ∈ fields, PlainField field)
    (announced : bodyLength (replyMessage start CSeq fields body).lines = some body.length) :
    Responds (replyMessage start CSeq fields body).encode CSeq
      (replyMessage start CSeq fields body) := by
  have nonempty : start ≠ [] := by
    rintro rfl
    exact absurd (List.prefix_nil.mp protocol) (by decide)
  refine ⟨⟨List.cons_ne_nil _ _, ?_, announced⟩, rfl, protocol,
    responseNumber_replyMessage start CSeq body⟩
  intro line member
  rw [replyMessage, List.mem_cons, List.mem_cons, List.mem_map] at member
  rcases member with rfl | rfl | ⟨field, inside, rfl⟩
  · exact ⟨nonempty, unbroken⟩
  · exact fieldLine_unbroken (ascii "CSeq", decimal CSeq)
      ⟨by simp [ascii], by simp [ascii], decimal_unbroken CSeq⟩
  · exact fieldLine_unbroken field (plain field inside)

/-- Without a body no field announces one. -/
theorem bodyLength_replyMessage (plain : ∀ field ∈ fields, PlainField field)
    (silent : ∀ field ∈ fields, lowercase field.1 ≠ lowercase (ascii "Content-length")) :
    bodyLength (replyMessage start CSeq fields body).lines = some 0 := by
  apply bodyLength_none
  have found := fieldOf_replyMessage start CSeq body (ascii "Content-length") (by decide) plain
  rw [Message.field] at found
  rw [found, List.findSome?_eq_none_iff]
  exact fun field member => if_neg (silent field member)

end Reply

end FzServer.Replies
