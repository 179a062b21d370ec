import FzServer.Proof.Parsing.Lines
import FzServer.Proof.Session.ArrayBounds

/-
This file compares the splits of one byte stream into receive calls.
-/

namespace FzServer.Parsing

open Foundation Rtsp Server

/-- The header lines of a request end with an empty line. -/
def ending : List UInt8 := crlf ++ crlf

/-- Each receive call returns one request. A part of its ending may arrive with the next one. The
number counts the bytes of the previous ending that arrived already. -/
inductive Split : Nat → List (List UInt8) → List Received → Prop
  | done : Split ending.length [] []
  | next {before cut : Nat} {lines : List UInt8} {requests : List (List UInt8)}
      {received : Received} {segments : List Received} (nonempty : lines ≠ [])
      (bytes : received.bytes = ending.drop before ++ lines ++ ending.take cut)
      (fits : received.bytes.length < BUF_MAX_SIZE) (rest : Split cut requests segments) :
      Split before (lines :: requests) (received :: segments)

/-- The segments carry the bytes of the requests and no others. -/
theorem Split.stream {before : Nat} {requests : List (List UInt8)} {segments : List Received}
    (split : Split before requests segments) :
    segments.flatMap Received.bytes =
      ending.drop before ++ requests.flatMap fun lines => lines ++ ending := by
  induction split with
  | done => simp
  | next nonempty bytes fits rest ih =>
      rw [List.flatMap_cons, List.flatMap_cons, ih, bytes]
      simp only [List.append_assoc]
      rw [List.append_cancel_left_eq, List.append_cancel_left_eq, ← List.append_assoc,
        List.take_append_drop]

/-- A part of the ending only ends lines. -/
theorem endsLines_of_subset {text : List UInt8} (inside : text ⊆ ending) : EndsLines text := by
  intro character member
  have each : ∀ other ∈ ending, other = 0x0D ∨ other = 0x0A := by simp [ending, crlf]
  exact each character (inside member)

/-- The rest of an ending is empty, or it closes with a line feed. -/
theorem drop_ending (before : Nat) :
    ending.drop before = [] ∨
      ∃ beginning, ending.drop before = beginning ++ [0x0A] ∧ EndsLines beginning := by
  by_cases inside : before < 4
  · refine Or.inr ⟨(ending.drop before).dropLast, ?_, ?_⟩
    · have every : ∀ index : Fin 4, ending.drop index = (ending.drop index).dropLast ++ [0x0A] := by
        decide
      exact every ⟨before, inside⟩
    · exact endsLines_of_subset
        (List.Subset.trans (List.dropLast_subset _) (List.drop_subset before ending))
  · exact Or.inl (List.drop_eq_nil_of_le (by simpa [ending, crlf] using inside))

/-- The loop reads the request of a segment and nothing of the endings around it. -/
theorem parseText_segment (before cut : Nat) (lines : List UInt8) (scanned : Scanned) :
    parseText (cstring (ending.drop before ++ lines ++ ending.take cut)) scanned =
      parseText (cstring lines) scanned := by
  have solid {text : List UInt8} (inside : text ⊆ ending) : 0 ∉ text :=
    fun zero => absurd (inside zero) (by decide)
  have tail : parseText (cstring (lines ++ ending.take cut)) scanned =
      parseText (cstring lines) scanned := by
    by_cases zero : 0 ∈ lines
    · rw [cstring_append_of_mem zero]
    · have closed := cstring_append (solid (List.take_subset cut ending)) []
      have whole := cstring_append zero []
      rw [List.append_nil] at closed whole
      rw [cstring_append zero, closed, whole, show cstring [] = [] from rfl, List.append_nil,
        List.append_nil, parseText_ending _ (endsLines_of_subset (List.take_subset cut ending))]
  rw [List.append_assoc, cstring_append (solid (List.drop_subset before ending))]
  rcases drop_ending before with empty | ⟨beginning, shape, ends⟩
  · rw [empty, List.nil_append, tail]
  · rw [shape, List.append_assoc, List.singleton_append, parseText_beginning ends, tail]

/-- Two segments with one request make the same step. -/
theorem step_segment {firstBefore firstCut secondBefore secondCut : Nat} {lines : List UInt8}
    (nonempty : lines ≠ []) {first second : Received}
    (firstBytes : first.bytes = ending.drop firstBefore ++ lines ++ ending.take firstCut)
    (firstFits : first.bytes.length < BUF_MAX_SIZE)
    (secondBytes : second.bytes = ending.drop secondBefore ++ lines ++ ending.take secondCut)
    (secondFits : second.bytes.length < BUF_MAX_SIZE) (clientFd : Nat)
    (surroundings : Surroundings) (server : EpollServer) :
    epollServer.step server (.readable clientFd first surroundings) =
      epollServer.step server (.readable clientFd second surroundings) := by
  have filled {received : Received} {before cut : Nat}
      (bytes : received.bytes = ending.drop before ++ lines ++ ending.take cut) :
      received.bytes ≠ [] := by
    rw [bytes]
    simp [nonempty]
  have parsed (handler : RtspHandler) : parseRequest first.bytes surroundings handler =
      parseRequest second.bytes surroundings handler := by
    rw [parseRequest, parseRequest, bufferText, bufferText, if_pos firstFits, if_pos secondFits,
      firstBytes, secondBytes, parseText_segment, parseText_segment]
  change server.step (.readable clientFd first surroundings) =
    server.step (.readable clientFd second surroundings)
  simp only [EpollServer.step, handleRequest, if_neg (filled firstBytes),
    if_neg (filled secondBytes), parsed]

/-- Two splits of the same requests make the same steps. -/
theorem Split.steps {firstBefore secondBefore : Nat} {requests : List (List UInt8)}
    {first second : List Received} (one : Split firstBefore requests first)
    (two : Split secondBefore requests second) (clientFd : Nat)
    (surroundings : List Surroundings) :
    List.Forall₂ (fun left right => ∀ server, epollServer.step server left =
        epollServer.step server right)
      (List.zipWith (Event.readable clientFd) first surroundings)
      (List.zipWith (Event.readable clientFd) second surroundings) := by
  induction one generalizing secondBefore second surroundings with
  | done =>
      cases two
      simp
  | next nonempty bytes fits rest ih =>
      cases two with
      | next _ otherBytes otherFits otherRest =>
          cases surroundings with
          | nil => simp
          | cons now later =>
              exact List.Forall₂.cons
                (step_segment nonempty bytes fits otherBytes otherFits clientFd now)
                (ih otherRest later)

/-- This receive call returns the given bytes, at most as many as the buffer holds. -/
def receive (bytes : List UInt8) : Received where
  bytes := bytes.take BUF_MAX_SIZE
  fits := List.length_take_le _ _

end FzServer.Parsing
