import FzServer.Construction.Rtsp.CheckedParser
import FzServer.Proof.Parsing.Reading
import FzServer.Proof.Session.Requests

/-
This file says for which texts the parse loop stays inside its arrays.
-/

namespace FzServer.Parsing

open Foundation Sessions Rtsp

/-- The words that the three conversions read fit their arrays. -/
def WordsFit (line : List UInt8) : Prop :=
  ∀ first ∈ scanToken line, first.1.length < methodSize ∧
    ∀ second ∈ scanToken first.2, second.1.length < urlSize ∧
      ∀ third ∈ scanToken second.2, third.1.length < versionSize

/-- Only the lines of two kinds write an array. -/
def LineFits (line : List UInt8) : Prop :=
  (hasKeyword line = true → WordsFit line) ∧
    ∀ token ∈ sessionOn line, token.length < recvSessionSize

instance (line : List UInt8) : Decidable (WordsFit line) :=
  inferInstanceAs (Decidable (∀ first ∈ scanToken line, _ ∧ ∀ second ∈ scanToken first.2, _ ∧
    ∀ third ∈ scanToken second.2, _))

instance (line : List UInt8) : Decidable (LineFits line) :=
  inferInstanceAs (Decidable ((_ → _) ∧ ∀ token ∈ sessionOn line, _))

theorem storeToken_eq (size : Nat) (token : List UInt8) :
    storeToken size token = if token.length < size then some token else none := rfl

/-- Words that fit are stored, and the first that does not ends the scan. -/
theorem checkedRequestLine_eq (line : List UInt8) (scanned : Scanned) :
    checkedRequestLine line scanned =
      if WordsFit line then some (scanRequestLine line scanned) else none := by
  rw [checkedRequestLine, scanRequestLine]
  simp only [WordsFit]
  rcases Option.eq_none_or_eq_some (scanToken line) with first | ⟨⟨method, afterMethod⟩, first⟩
  · simp [first]
  by_cases methodFits : method.length < methodSize
  · rcases Option.eq_none_or_eq_some (scanToken afterMethod) with second | ⟨⟨url, afterUrl⟩, second⟩
    · simp [storeToken_eq, first, second, methodFits]
    by_cases urlFits : url.length < urlSize
    · rcases Option.eq_none_or_eq_some (scanToken afterUrl) with third | ⟨⟨version, rest⟩, third⟩
      · simp [storeToken_eq, first, second, third, methodFits, urlFits]
      by_cases versionFits : version.length < versionSize
      · simp [storeToken_eq, first, second, third, methodFits, urlFits, versionFits]
      · simp [storeToken_eq, first, second, third, methodFits, urlFits, versionFits]
    · simp [storeToken_eq, first, second, methodFits, urlFits]
  · simp [storeToken_eq, first, methodFits]

theorem checkedSession_eq (line : List UInt8) (scanned : Scanned) :
    checkedSession line scanned =
      if ∀ token ∈ scanSession line, token.length < recvSessionSize then
        some (scanned.setSession line)
      else none := by
  rw [checkedSession, Scanned.setSession]
  cases scanSession line with
  | none => simp
  | some token =>
      by_cases fits : token.length < recvSessionSize
      · simp [storeToken_eq, fits]
      · simp [storeToken_eq, fits]

/-- A turn of the loop does what the unchecked loop does, unless it overflows an array. -/
theorem checkedLine_eq (line : List UInt8) (scanned : Scanned) :
    checkedLine line scanned = if LineFits line then some (parseLine scanned line) else none := by
  rw [checkedLine, parseLine]
  simp only [LineFits, sessionOn, namesSession]
  by_cases keyword : hasKeyword line = true
  · rw [if_pos keyword, if_pos keyword, checkedRequestLine_eq]
    simp [keyword]
  rw [if_neg keyword, if_neg keyword]
  by_cases numbered : strstr line (ascii "CSeq") = true
  · rw [if_pos numbered, if_pos numbered]
    simp [keyword, numbered]
  rw [if_neg numbered, if_neg numbered]
  by_cases transport : ascii "Transport:" <+: line
  · rw [if_pos transport, if_pos transport]
    simp [keyword, numbered, transport]
  rw [if_neg transport, if_neg transport]
  by_cases session : strstr line (ascii "Session") = true
  · rw [if_pos session, if_pos session, checkedSession_eq]
    simp [keyword, numbered, transport, session]
  · rw [if_neg session, if_neg session]
    simp [keyword, numbered, transport, session]

/-- A turn of the loop keeps to the buffer and shortens it. -/
theorem lineTurn_spends {state next : LineState} (on : lineTurn state = .inr next) :
    next.rest <:+ state.rest ∧ next.rest.length + 1 ≤ state.rest.length := by
  unfold lineTurn at on
  split at on
  next => nomatch on
  next => nomatch on
  next line rest call =>
    split at on
    next => nomatch on
    next =>
      cases on
      exact nextToken_shorter call

/-- The loop over a terminated text ends at the terminator or overflows an array. -/
theorem lineLoop_terminated (lines : List (List UInt8)) {text : List UInt8} (solid : 0 ∉ text)
    (cut : strtok 0x0A text = lines) (tail : List UInt8) (scanned : Scanned) (fuel : Nat)
    (parsed : ParseEnd) (ends : loop lineTurn fuel ⟨text ++ 0 :: tail, scanned⟩ = some parsed) :
    parsed = if ∀ line ∈ lines, LineFits line then .finished (lines.foldl parseLine scanned)
      else .overflow := by
  induction lines generalizing text scanned fuel with
  | nil =>
      have call := @nextToken_terminated 0x0A text solid (by decide) tail
      rw [cut] at call
      obtain ⟨_, call⟩ | ⟨line, behind, split, _⟩ := call
      · have turn : lineTurn ⟨text ++ 0 :: tail, scanned⟩ = .inl (.finished scanned) := by
          rw [lineTurn, call]
        rw [loop_stops turn ends]
        simp
      · nomatch split
  | cons line lines ih =>
      have call := @nextToken_terminated 0x0A text solid (by decide) tail
      rw [cut] at call
      obtain ⟨none, _⟩ | ⟨first, behind, split, behindSolid, call⟩ := call
      · nomatch none
      obtain ⟨rfl, later⟩ := List.cons.inj split
      by_cases fits : LineFits line
      · have turn : lineTurn ⟨text ++ 0 :: tail, scanned⟩ =
            .inr ⟨behind ++ 0 :: tail, parseLine scanned line⟩ := by
          rw [lineTurn, call]
          dsimp only
          rw [checkedLine_eq, if_pos fits]
        obtain ⟨less, rest⟩ := loop_goes turn ends
        rw [ih behindSolid later.symm _ less rest]
        simp [fits]
      · have turn : lineTurn ⟨text ++ 0 :: tail, scanned⟩ = .inl .overflow := by
          rw [lineTurn, call]
          dsimp only
          rw [checkedLine_eq, if_neg fits]
        rw [loop_stops turn ends, if_neg]
        exact fun all => fits (all line List.mem_cons_self)

section Requests

variable (received : Received) (surroundings : Surroundings) (handler : RtspHandler)

/-- A zero byte ends the text inside the buffer. -/
def Terminated : Prop := received.bytes.length < BUF_MAX_SIZE ∨ 0 ∈ received.bytes

/-- These lines stand in front of the terminator. -/
def bufferLines : List (List UInt8) := strtok 0x0A (cstring received.bytes)

/-- The loop has ended without an access outside of an array. -/
def InBounds (parsed : ParseEnd) : Prop := ∃ scanned, parsed = .finished scanned

variable {received}

theorem receiveBuffer_terminated (terminated : Terminated received) :
    0 ∉ cstring received.bytes ∧
      ∃ tail, receiveBuffer received = cstring received.bytes ++ 0 :: tail := by
  by_cases zero : 0 ∈ received.bytes
  · obtain ⟨first, second, shape, solid⟩ := List.eq_append_cons_of_mem zero
    have text : cstring received.bytes = first := by
      rw [shape, cstring_append solid, cstring, List.takeWhile_cons_of_neg (by decide),
        List.append_nil]
    rw [text]
    refine ⟨solid, second ++ List.replicate (BUF_MAX_SIZE - received.bytes.length) 0, ?_⟩
    rw [receiveBuffer]
    generalize BUF_MAX_SIZE - received.bytes.length = zeros
    rw [shape, List.append_assoc, List.cons_append]
  · have room := terminated.resolve_right zero
    have text : cstring received.bytes = received.bytes := by
      have whole := cstring_append zero []
      rwa [List.append_nil, show cstring [] = [] from rfl, List.append_nil] at whole
    rw [text]
    obtain ⟨more, count⟩ := Nat.exists_eq_add_of_lt room
    have left : BUF_MAX_SIZE - received.bytes.length = more + 1 := by omega
    refine ⟨zero, List.replicate more 0, ?_⟩
    rw [receiveBuffer, left, List.replicate_succ]

/-- The unchecked loop sees the same text. -/
theorem bufferText_terminated (terminated : Terminated received) :
    bufferText received.bytes surroundings = cstring received.bytes := by
  rw [bufferText]
  split_ifs with room
  · rfl
  · exact cstring_append_of_mem (terminated.resolve_left room) _

variable (received) in
theorem checkedRequest_ends :
    ∃ parsed, checkedRequest received surroundings handler = some parsed := by
  let start : LineState := ⟨receiveBuffer received, Scanned.init surroundings handler⟩
  have ends : ∃ parsed, loop lineTurn (start.rest.length / 1 + 1) start = some parsed :=
    loop_ends (fun state : LineState => state.rest.length) Nat.one_pos (fun _ => True)
      (fun _ _ _ on => ⟨trivial, (lineTurn_spends on).2⟩) trivial
  rwa [Nat.div_one] at ends

/-- The text of a terminated buffer is parsed as the unchecked loop does, or an array overflows. -/
theorem checkedRequest_terminated (terminated : Terminated received) :
    checkedRequest received surroundings handler =
      some (if ∀ line ∈ bufferLines received, LineFits line then
          .finished (parseRequest received.bytes surroundings handler)
        else .overflow) := by
  obtain ⟨parsed, ends⟩ := checkedRequest_ends received surroundings handler
  obtain ⟨solid, tail, buffer⟩ := receiveBuffer_terminated terminated
  rw [ends]
  rw [checkedRequest, buffer] at ends
  rw [lineLoop_terminated _ solid rfl tail _ _ _ ends, parseRequest,
    bufferText_terminated surroundings terminated]
  rfl

/-- The tokenizer runs over the end of a full buffer without a terminator. -/
theorem checkedRequest_unterminated (full : ¬Terminated received) (parsed : ParseEnd)
    (ends : checkedRequest received surroundings handler = some parsed) : ¬InBounds parsed := by
  obtain ⟨long, solid⟩ := not_or.mp full
  have fits := received.fits
  have buffer : 0 ∉ receiveBuffer received := by
    rw [receiveBuffer, show BUF_MAX_SIZE - received.bytes.length = 0 by omega, List.replicate_zero,
      List.append_nil]
    exact solid
  refine loop_results (fun state => 0 ∉ state.rest) (fun parsed => ¬InBounds parsed)
    (fun state next solid on zero => ?_) (fun state parsed solid now => ?_) buffer ends
  · exact solid ((lineTurn_spends on).1.subset zero)
  · rintro ⟨scanned, rfl⟩
    unfold lineTurn at now
    split at now
    next => nomatch now
    next call => exact nextToken_unterminated solid call
    next =>
      split at now
      next => nomatch now
      next => nomatch now

variable (received) in
/-- The loop stays inside exactly when a zero byte ends the text and every word fits its array. -/
theorem parser_inBounds_iff :
    ∃ parsed, checkedRequest received surroundings handler = some parsed ∧
      (InBounds parsed ↔ Terminated received ∧ ∀ line ∈ bufferLines received, LineFits line) := by
  by_cases terminated : Terminated received
  · refine ⟨_, checkedRequest_terminated surroundings handler terminated, ?_⟩
    split_ifs with fits
    · exact iff_of_true ⟨_, rfl⟩ ⟨terminated, fits⟩
    · refine iff_of_false ?_ fun both => fits both.2
      rintro ⟨scanned, overflow⟩
      nomatch overflow
  · obtain ⟨parsed, ends⟩ := checkedRequest_ends received surroundings handler
    exact ⟨parsed, ends, iff_of_false
      (checkedRequest_unterminated surroundings handler terminated parsed ends)
      fun both => terminated both.1⟩

end Requests

/-- The url of this request takes one byte more than its array has. -/
def longUrl : Received where
  bytes := ascii "PLAY " ++ List.replicate 100 0x61 ++ ascii " RTSP/1.0\r\n\r\n"
  fits := by decide +kernel

/-- These bytes fill the receive buffer and leave no room for a terminator. -/
def fullBuffer : Received where
  bytes := List.replicate BUF_MAX_SIZE 0x61
  fits := Nat.le_of_eq List.length_replicate

/-- A long word overflows its array, and a full buffer is read behind its end. -/
theorem parser_leavesBounds :
    let handler : RtspHandler := ⟨5, [], [], .empty, .empty⟩
    checkedRequest longUrl Server.emptySurroundings handler = some .overflow ∧
      ∃ parsed, checkedRequest fullBuffer Server.emptySurroundings handler = some parsed ∧
        ¬InBounds parsed := by
  intro handler
  constructor
  · rw [checkedRequest_terminated _ _ (Or.inl (by decide +kernel)), if_neg (by decide +kernel)]
  · have full : ¬Terminated fullBuffer := by
      rintro (short | zero)
      · exact absurd short (Nat.not_lt.mpr (Nat.le_of_eq List.length_replicate.symm))
      · exact absurd (List.eq_of_mem_replicate zero) (by decide)
    obtain ⟨parsed, ends⟩ := checkedRequest_ends fullBuffer Server.emptySurroundings handler
    exact ⟨parsed, ends, checkedRequest_unterminated _ _ full parsed ends⟩

end FzServer.Parsing
