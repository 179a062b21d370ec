import FzServer.Proof.Parsing.Indeterminate
import FzServer.Proof.Session.Directory

/-
This file finds the requests of which the directory does not learn what the arrays held before.
-/

namespace FzServer.Server

open Foundation Sessions Rtsp Parsing

/-- The stack of the handler and the memory around its buffer start with these bytes. -/
structure Leftover where
  residue : Residue
  localIp : List UInt8
  pastBuffer : List UInt8

def Leftover.fill (leftover : Leftover) (surroundings : Surroundings) : Surroundings :=
  { leftover.residue.fill surroundings with
    localIp := leftover.localIp
    pastBuffer := leftover.pastBuffer }

/-- The same event finds other bytes. -/
def Leftover.refill (leftover : Leftover) : Event → Event
  | .readable clientFd received surroundings =>
      .readable clientFd received (leftover.fill surroundings)
  | event => event

/-- The lines write everything that the branch reads. -/
structure Complete (received : Received) : Prop where
  terminated : Terminated received
  method : lastRead methodOn (bufferLines received) ≠ none
  session : (bufferLines received).any namesSession = true →
    lastRead sessionOn (bufferLines received) ≠ none
  describe : dispatched (bufferLines received) = some .DESCRIBE →
    ∃ url ∈ lastRead urlOn (bufferLines received), scanLocalIp url [] ≠ []
  setup : dispatched (bufferLines received) = some .SETUP →
    lastRead numberOn (bufferLines received) = some 3 ∨
      lastRead numberOn (bufferLines received) = some 4

/-- Only a request has something to complete. -/
def Event.Whole (event : Event) : Prop :=
  ∀ received ∈ event.received, received.bytes ≠ [] → Complete received

instance (received : Received) : Decidable (Complete received) :=
  decidable_of_iff
    (Terminated received ∧ lastRead methodOn (bufferLines received) ≠ none ∧
      ((bufferLines received).any namesSession = true →
        lastRead sessionOn (bufferLines received) ≠ none) ∧
      (dispatched (bufferLines received) = some .DESCRIBE →
        ∃ url ∈ lastRead urlOn (bufferLines received), scanLocalIp url [] ≠ []) ∧
      (dispatched (bufferLines received) = some .SETUP →
        lastRead numberOn (bufferLines received) = some 3 ∨
          lastRead numberOn (bufferLines received) = some 4))
    ⟨fun all => ⟨all.1, all.2.1, all.2.2.1, all.2.2.2.1, all.2.2.2.2⟩,
      fun complete => ⟨complete.1, complete.2, complete.3, complete.4, complete.5⟩⟩

instance (event : Event) : Decidable event.Whole :=
  inferInstanceAs (Decidable (∀ received ∈ event.received, _))

/-- A host in the url replaces what the array held. -/
theorem scanLocalIp_named {url : List UInt8} (named : scanLocalIp url [] ≠ [])
    (localIp : List UInt8) : scanLocalIp url localIp = scanLocalIp url [] := by
  rw [scanLocalIp, scanLocalIp] at *
  cases scheme : scanLiteral (ascii "rtsp://") url with
  | none => exact absurd (by rw [scheme]) named
  | some rest =>
      rw [scheme] at named
      by_cases empty : rest.takeWhile (· ≠ 0x3A) = []
      · exact absurd (if_pos empty) named
      · exact (if_neg empty).trans (if_neg empty).symm

/-- The description then does not show what the array held. -/
theorem handleCmd_DESCRIBE_named {url : List UInt8} (named : scanLocalIp url [] ≠ [])
    (time CSeq : Int) (first second : List UInt8) :
    handleCmd_DESCRIBE time first CSeq url = handleCmd_DESCRIBE time second CSeq url := by
  have hosts : scanLocalIp url first = scanLocalIp url second :=
    (scanLocalIp_named named first).trans (scanLocalIp_named named second).symm
  rw [handleCmd_DESCRIBE, handleCmd_DESCRIBE, hosts]

section Complete

variable {received : Received} (complete : Complete received)

include complete

theorem Complete.lines (surroundings : Surroundings) :
    receivedText received.bytes surroundings = bufferLines received := by
  rw [receivedText, bufferText_terminated surroundings complete.terminated, bufferLines]

/-- The parser reads the same values over any leftover. -/
theorem Complete.scanned (leftover : Leftover) (surroundings : Surroundings)
    (handler : RtspHandler) :
    let filled := parseRequest received.bytes (leftover.fill surroundings) handler
    let scanned := parseRequest received.bytes surroundings handler
    filled.method = scanned.method ∧ filled.CSeq = scanned.CSeq ∧
      filled.handler = scanned.handler ∧
      (Method.ofText scanned.method = some .DESCRIBE →
        filled.url = scanned.url ∧ scanLocalIp scanned.url [] ≠ []) ∧
      (Method.ofText scanned.method = some .SETUP → scanned.CSeq = 3 ∨ scanned.CSeq = 4) := by
  intro filled scanned
  have first := parseRequest_read received.bytes (leftover.fill surroundings) handler
  have second := parseRequest_read received.bytes surroundings handler
  rw [complete.lines] at first second
  obtain ⟨method, written⟩ := Option.ne_none_iff_exists'.mp complete.method
  have branch : Method.ofText scanned.method = dispatched (bufferLines received) := by
    rw [second.method, dispatched, written, Option.getD_some, Option.bind_some]
  refine ⟨?_, first.CSeq.trans second.CSeq.symm, ?_, fun describe => ?_, fun setup => ?_⟩
  · rw [first.method, second.method, written, Option.getD_some, Option.getD_some]
  · rw [first.handler, second.handler]
    by_cases named : (bufferLines received).any namesSession = true
    · obtain ⟨session, read⟩ := Option.ne_none_iff_exists'.mp (complete.session named)
      rw [first.recv_session, second.recv_session, read, Option.getD_some, Option.getD_some]
      rfl
    · rw [if_neg named, if_neg named]
      rfl
  · obtain ⟨url, read, named⟩ := complete.describe (branch.symm.trans describe)
    rw [first.url, second.url, Option.mem_def.mp read, Option.getD_some, Option.getD_some]
    exact ⟨rfl, named⟩
  · have number := complete.setup (branch.symm.trans setup)
    rw [second.CSeq]
    rcases number with three | four
    · exact Or.inl (by rw [three, Option.getD_some])
    · exact Or.inr (by rw [four, Option.getD_some])

/-- The client asks the same over any leftover. -/
theorem Complete.askOf_fill (leftover : Leftover) (surroundings : Surroundings) (clientFd : Nat) :
    askOf clientFd received.bytes (leftover.fill surroundings) =
      askOf clientFd received.bytes surroundings := by
  have handlers : EpollServer.start.handler clientFd (leftover.fill surroundings) =
      EpollServer.start.handler clientFd surroundings := rfl
  rw [askOf, askOf, handlers]
  obtain ⟨method, CSeq, handler, describe, setup⟩ :=
    complete.scanned leftover surroundings (EpollServer.start.handler clientFd surroundings)
  generalize parseRequest received.bytes surroundings
    (EpollServer.start.handler clientFd surroundings) = scanned at *
  generalize parseRequest received.bytes (leftover.fill surroundings)
    (EpollServer.start.handler clientFd surroundings) = filled at *
  have text (session : List UInt8) :
      builtText (leftover.fill surroundings) scanned.CSeq filled.url
          (Method.ofText scanned.method) session =
        builtText surroundings scanned.CSeq scanned.url (Method.ofText scanned.method)
          session := by
    cases kind : Method.ofText scanned.method with
    | none => rfl
    | some method =>
        cases method with
        | OPTIONS | PLAY | PAUSE | TEARDOWN => rfl
        | SETUP => exact setupReply_announced (setup kind) _ _ session
        | DESCRIBE =>
            obtain ⟨url, named⟩ := describe kind
            rw [url]
            exact handleCmd_DESCRIBE_named named surroundings.time scanned.CSeq _ _
  simp only [askOfScanned, replyText, method, CSeq, handler, text]
  rfl

end Complete

/-- The directory cannot tell which bytes a whole request has found. -/
theorem clientEvent_refill {event : Event} (whole : event.Whole) (leftover : Leftover) :
    clientEvent (leftover.refill event) = clientEvent event := by
  cases event with
  | accept clientFd => rfl
  | epollError clientFd => rfl
  | readable clientFd received surroundings =>
      rw [Leftover.refill, clientEvent, clientEvent]
      by_cases ended : received.bytes = []
      · rw [if_pos ended, if_pos ended]
      · rw [if_neg ended, if_neg ended, (whole received rfl ended).askOf_fill leftover]

/-- These are the same events, and each finds any other bytes. -/
def Refilled : List Event → List Event → Prop :=
  List.Forall₂ fun event other => ∃ leftover : Leftover, other = leftover.refill event

theorem Refilled.clientEvents {events others : List Event} (refilled : Refilled events others)
    (whole : ∀ event ∈ events, event.Whole) :
    others.map clientEvent = events.map clientEvent := by
  induction refilled with
  | nil => rfl
  | @cons event _ _ _ head _ ih =>
      obtain ⟨leftover, rfl⟩ := head
      obtain ⟨first, rest⟩ := List.forall_mem_cons.mp whole
      rw [List.map_cons, List.map_cons, clientEvent_refill first, ih rest]

end FzServer.Server
