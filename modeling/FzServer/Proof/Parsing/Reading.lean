import FzServer.Construction.Rtsp.RtspHandler
import FzServer.Foundation.LastWrite

/-
This file says what the parse loop reads off the lines of any text.
-/

namespace FzServer.Parsing

open Foundation Sessions Rtsp

/-- A line with a keyword gives its first word as the method. -/
def methodOn (line : List UInt8) : Option (List UInt8) :=
  if hasKeyword line then (scanToken line).map Prod.fst else none

/-- It gives its second word as the url. -/
def urlOn (line : List UInt8) : Option (List UInt8) :=
  if hasKeyword line then (scanToken line).bind fun found => (scanToken found.2).map Prod.fst
  else none

/-- It selects the track that it names. -/
def trackOn (line : List UInt8) : Option Bool :=
  if hasKeyword line then
    if strstr line (ascii "track1") then some true
    else if strstr line (ascii "track0") then some false
    else none
  else none

def numbersRequest (line : List UInt8) : Bool :=
  hasKeyword line = false ∧ strstr line (ascii "CSeq") = true

def numberOn (line : List UInt8) : Option Int := if numbersRequest line then scanCSeq line else none

def namesSession (line : List UInt8) : Bool :=
  hasKeyword line = false ∧ strstr line (ascii "CSeq") = false ∧
    ¬ascii "Transport:" <+: line ∧ strstr line (ascii "Session") = true

def sessionOn (line : List UInt8) : Option (List UInt8) :=
  if namesSession line then scanSession line else none

/-- The last line that gives a value decides it. -/
def lastRead {Value : Type} (read : List UInt8 → Option Value) (lines : List (List UInt8)) :
    Option Value :=
  (lines.filterMap read).getLast?

/-- A track that no line names keeps the flag of the descriptor. -/
def selectTrack (track : Option Bool) (clientFd : Nat) (manager : ClientFdManager) :
    ClientFdManager :=
  match track with
  | none => manager
  | some flag => manager.setAvFlags clientFd flag

/-- A line changes exactly what it gives. -/
structure LineRead (line : List UInt8) (before after : Scanned) : Prop where
  method : after.method = (methodOn line).getD before.method
  url : after.url = (urlOn line).getD before.url
  CSeq : after.CSeq = (numberOn line).getD before.CSeq
  recv_session : after.recv_session = (sessionOn line).getD before.recv_session
  handler : after.handler = { before.handler with
    session_ :=
      if namesSession line then (sessionOn line).getD before.recv_session
      else before.handler.session_
    clientFdManager_ :=
      selectTrack (trackOn line) before.handler.clientFd_ before.handler.clientFdManager_ }

/-- The second name wins over the first. -/
theorem setTracks_selectTrack (line : List UInt8) (keyword : hasKeyword line = true)
    (clientFd : Nat) (manager : ClientFdManager) :
    setTracks line clientFd manager = selectTrack (trackOn line) clientFd manager := by
  rw [setTracks, trackOn, if_pos keyword]
  split_ifs <;> simp [selectTrack, ClientFdManager.setAvFlags]

/-- The conversions of a request line touch the three words alone. -/
theorem scanRequestLine_read (line : List UInt8) (scanned : Scanned) :
    (scanRequestLine line scanned).method =
        ((scanToken line).map Prod.fst).getD scanned.method ∧
      (scanRequestLine line scanned).url =
        ((scanToken line).bind fun found => (scanToken found.2).map Prod.fst).getD scanned.url ∧
      (scanRequestLine line scanned).CSeq = scanned.CSeq ∧
      (scanRequestLine line scanned).recv_session = scanned.recv_session ∧
      (scanRequestLine line scanned).handler = scanned.handler := by
  rw [scanRequestLine]
  cases scanToken line with
  | none => exact ⟨rfl, rfl, rfl, rfl, rfl⟩
  | some first =>
      obtain ⟨method, afterMethod⟩ := first
      dsimp only
      cases second : scanToken afterMethod with
      | none => simp [second]
      | some found =>
          obtain ⟨url, afterUrl⟩ := found
          dsimp only
          cases scanToken afterUrl <;> simp [second]

/-- Each branch of the loop is one kind of line. -/
theorem parseLine_read (scanned : Scanned) (line : List UInt8) :
    LineRead line scanned (parseLine scanned line) := by
  by_cases keyword : hasKeyword line = true
  · have noNumber : numbersRequest line = false := by simp [numbersRequest, keyword]
    have noName : namesSession line = false := by simp [namesSession, keyword]
    obtain ⟨method, url, CSeq, recv_session, handler⟩ :=
      scanRequestLine_read line (scanned.setTracks line)
    rw [parseLine, if_pos keyword]
    constructor
    · rw [method, methodOn, if_pos keyword]
      rfl
    · rw [url, urlOn, if_pos keyword]
      rfl
    · rw [CSeq, numberOn, noNumber]
      rfl
    · rw [recv_session, sessionOn, noName]
      rfl
    · rw [handler, noName, Scanned.setTracks, setTracks_selectTrack line keyword]
      rfl
  · have method : methodOn line = none := if_neg keyword
    have url : urlOn line = none := if_neg keyword
    have track : trackOn line = none := if_neg keyword
    rw [parseLine, if_neg keyword]
    by_cases numbered : strstr line (ascii "CSeq") = true
    · have number : numbersRequest line = true := by simp [numbersRequest, keyword, numbered]
      have noName : namesSession line = false := by simp [namesSession, numbered]
      rw [if_pos numbered]
      constructor
      · rw [method, Option.getD_none]
      · rw [url, Option.getD_none]
      · rw [numberOn, if_pos number]
      · rw [sessionOn, noName]
        rfl
      · rw [track, noName]
        rfl
    · have noNumber : numbersRequest line = false := by simp [numbersRequest, numbered]
      rw [if_neg numbered]
      by_cases named : namesSession line = true
      · obtain ⟨_, _, transport, session⟩ := of_decide_eq_true named
        rw [if_neg transport, if_pos session, Scanned.setSession]
        constructor
        · rw [method, Option.getD_none]
        · rw [url, Option.getD_none]
        · rw [numberOn, noNumber]
          rfl
        · rw [sessionOn, if_pos named]
        · rw [track, if_pos named, sessionOn, if_pos named]
          rfl
      · have same : (if ascii "Transport:" <+: line then scanned
            else if strstr line (ascii "Session") then scanned.setSession line else scanned) =
              scanned := by
          by_cases transport : ascii "Transport:" <+: line
          · rw [if_pos transport]
          · have session : ¬strstr line (ascii "Session") = true := fun session =>
              named (decide_eq_true ⟨Bool.eq_false_iff.mpr keyword,
                Bool.eq_false_iff.mpr numbered, transport, session⟩)
            rw [if_neg transport, if_neg session]
        rw [same]
        constructor
        · rw [method, Option.getD_none]
        · rw [url, Option.getD_none]
        · rw [numberOn, noNumber]
          rfl
        · rw [sessionOn, if_neg named, Option.getD_none]
        · rw [track, if_neg named]
          rfl

/-- The descriptor table after several lines shows the last track alone. -/
theorem selectTrack_selectTrack (first second : Option Bool) (clientFd : Nat)
    (manager : ClientFdManager) :
    selectTrack second clientFd (selectTrack first clientFd manager) =
      selectTrack (second.or first) clientFd manager := by
  cases first <;> cases second <;> simp [selectTrack, ClientFdManager.setAvFlags]

/-- These values come out of the loop over a list of lines. -/
structure LinesRead (lines : List (List UInt8)) (before after : Scanned) : Prop where
  method : after.method = (lastRead methodOn lines).getD before.method
  url : after.url = (lastRead urlOn lines).getD before.url
  CSeq : after.CSeq = (lastRead numberOn lines).getD before.CSeq
  recv_session : after.recv_session = (lastRead sessionOn lines).getD before.recv_session
  handler : after.handler = { before.handler with
    session_ :=
      if lines.any namesSession then after.recv_session else before.handler.session_
    clientFdManager_ :=
      selectTrack (lastRead trackOn lines) before.handler.clientFd_ before.handler.clientFdManager_ }

/-- The last line of a list is asked first. -/
theorem lastRead_concat {Value : Type} (read : List UInt8 → Option Value)
    (lines : List (List UInt8)) (line : List UInt8) :
    lastRead read (lines ++ [line]) = (read line).or (lastRead read lines) :=
  lastWrite_concat read lines line

theorem getD_or {Value : Type} (first second : Option Value) (default : Value) :
    (first.or second).getD default = first.getD (second.getD default) := by
  cases first <;> rfl

/-- The induction follows the loop from its last line. -/
theorem parseLines_read (lines : List (List UInt8)) (scanned : Scanned) :
    LinesRead lines scanned (lines.foldl parseLine scanned) := by
  induction lines using List.reverseRecOn with
  | nil => exact ⟨rfl, rfl, rfl, rfl, rfl⟩
  | append_singleton lines line ih =>
      have last := parseLine_read (lines.foldl parseLine scanned) line
      rw [List.foldl_append, List.foldl_cons, List.foldl_nil]
      constructor
      · rw [last.method, ih.method, lastRead_concat, getD_or]
      · rw [last.url, ih.url, lastRead_concat, getD_or]
      · rw [last.CSeq, ih.CSeq, lastRead_concat, getD_or]
      · rw [last.recv_session, ih.recv_session, lastRead_concat, getD_or]
      · rw [last.handler, ih.handler, selectTrack_selectTrack, lastRead_concat, List.any_append,
          List.any_cons, List.any_nil, Bool.or_false, last.recv_session]
        by_cases named : namesSession line = true
        · simp [named]
        · have unread : sessionOn line = none := if_neg named
          simp [named, unread]

/-- These are the lines of the receive buffer. -/
def receivedText (received : List UInt8) (surroundings : Surroundings) : List (List UInt8) :=
  strtok 0x0A (bufferText received surroundings)

theorem parseRequest_read (received : List UInt8) (surroundings : Surroundings)
    (handler : RtspHandler) :
    LinesRead (receivedText received surroundings) (Scanned.init surroundings handler)
      (parseRequest received surroundings handler) :=
  parseLines_read _ _

end FzServer.Parsing
