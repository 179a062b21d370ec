import FzServer.Proof.Parsing.HeaderLines
import FzServer.Proof.Session.Requests
import FzServer.Foundation.LastWrite

/-
This file compares what the loop reads with what the request says.
-/

namespace FzServer.Parsing

open Foundation Sessions Rtsp Server

/-- A header line with a keyword gives the method a name with a colon. -/
def Header.claimedMethod (header : Header) : Option (List UInt8) :=
  if hasKeyword header.line then some header.firstToken else none

theorem readHeader_method (scanned : Scanned) (header : Header) :
    (readHeader scanned header).method = header.claimedMethod.getD scanned.method := by
  rw [Header.claimedMethod]
  by_cases keyword : hasKeyword header.line = true
  · rw [readHeader, parseLine, if_pos keyword, if_pos keyword, scanRequestLine,
      header.scanToken_line, Option.getD_some]
    dsimp only
    cases scanToken (header.value.dropWhile fun character => !isspace character) with
    | none => rfl
    | some second =>
        obtain ⟨url, afterUrl⟩ := second
        dsimp only
        cases scanToken afterUrl <;> rfl
  · rw [readHeader_quiet scanned (Bool.eq_false_iff.mpr keyword), if_neg keyword, Option.getD_none]

/-- No method is read when a header line holds a keyword. -/
theorem method_of_keyword (headers : List Header) (scanned : Scanned) {header : Header}
    (member : header ∈ headers) (keyword : hasKeyword header.line = true) :
    0x3A ∈ (headers.foldl readHeader scanned).method := by
  rw [foldl_lastWrite readHeader Scanned.method Header.claimedMethod headers scanned
    fun other _ before => readHeader_method before other]
  have claims : header.firstToken ∈ headers.filterMap Header.claimedMethod :=
    List.mem_filterMap.mpr ⟨header, member, if_pos keyword⟩
  cases last : (headers.filterMap Header.claimedMethod).getLast? with
  | none =>
      rw [List.getLast?_eq_none_iff.mp last] at claims
      exact absurd claims List.not_mem_nil
  | some token =>
      obtain ⟨other, _, claimed⟩ := lastWrite_mem last
      rw [Header.claimedMethod] at claimed
      by_cases also : hasKeyword other.line = true
      · rw [if_pos also, Option.some.injEq] at claimed
        rw [Option.getD_some, ← claimed, Header.firstToken]
        simp
      · rw [if_neg also] at claimed
        exact absurd claimed.symm (Option.some_ne_none token)

section Quiet

variable {headers : List Header} (quiet : ∀ header ∈ headers, hasKeyword header.line = false)
  (scanned : Scanned)

include quiet

/-- Quiet headers keep what the request line decided. -/
theorem foldl_requestLine :
    (headers.foldl readHeader scanned).method = scanned.method ∧
      (headers.foldl readHeader scanned).url = scanned.url ∧
      { (headers.foldl readHeader scanned).handler with session_ := [] } =
        { scanned.handler with session_ := [] } := by
  have kept := foldl_kept readHeader
    (fun state => (state.method, state.url, { state.handler with session_ := [] })) headers scanned
    (by
      intro header member before
      rw [readHeader_quiet before (quiet header member)])
  simpa only [Prod.mk.injEq] using kept

/-- The number is the one of the last such header. -/
theorem foldl_CSeq :
    (headers.foldl readHeader scanned).CSeq =
      ((headers.filterMap Header.sequenceNumber).getLast?.map fun number : Nat =>
        storeInt number).getD scanned.CSeq := by
  have last := foldl_lastWrite readHeader Scanned.CSeq
    (fun header => header.sequenceNumber.map fun number : Nat => storeInt number) headers scanned
    (by
      intro header member before
      rw [readHeader_quiet before (quiet header member)])
  rw [last, ← List.map_filterMap, List.getLast?_map]

/-- The buffer keeps the identifier of the last session header that was read. -/
theorem foldl_recv_session :
    (headers.foldl readHeader scanned).recv_session =
      (headers.filterMap Header.readSession).getLast?.getD scanned.recv_session := by
  apply foldl_lastWrite
  intro header member before
  rw [readHeader_quiet before (quiet header member)]

/-- The session is the buffer as soon as one line selects it. -/
theorem foldl_session :
    (headers.foldl readHeader scanned).handler.session_ =
      if headers.any Header.selectsSession then (headers.foldl readHeader scanned).recv_session
      else scanned.handler.session_ := by
  induction headers using List.reverseRecOn with
  | nil => rfl
  | append_singleton headers header ih =>
      have before := ih fun other member => quiet other (List.mem_append_left _ member)
      have step := readHeader_quiet (headers.foldl readHeader scanned)
        (quiet header (List.mem_append_right _ (List.mem_singleton_self header)))
      rw [List.foldl_append, List.foldl_cons, List.foldl_nil, step, List.any_append, List.any_cons,
        List.any_nil, Bool.or_false]
      by_cases selects : header.selectsSession = true
      · rw [if_pos selects, selects, Bool.or_true, if_pos rfl]
      · have unread : header.readSession = none := by
          by_contra read
          exact selects (header.selectsSession_of_readSession read)
        rw [if_neg selects, Bool.eq_false_iff.mpr selects, Bool.or_false, unread, Option.getD_none]
        exact before

end Quiet

section Tracks

/-- The second name wins over the first. -/
theorem setTracks_eq (line : List UInt8) (clientFd : Nat) (manager : ClientFdManager) :
    setTracks line clientFd manager =
      if strstr line (ascii "track1") then manager.setAvFlags clientFd true
      else if strstr line (ascii "track0") then manager.setAvFlags clientFd false
      else manager := by
  rw [setTracks]
  split_ifs
  · simp [ClientFdManager.setAvFlags]
  · rfl
  · rfl
  · rfl

/-- The last component of the path is a part of the url. -/
theorem strstr_of_lastComponent {url track : List UInt8} (last : lastComponent url = track) :
    strstr url track = true := by
  rw [← last, lastComponent]
  exact decide_eq_true
    ((List.rtakeWhile_suffix _ _).isInfix.trans (List.takeWhile_prefix _).isInfix)

variable (request : RtspRequest)

/-- The path selects the flag exactly when no other part of the url names a track. -/
theorem setTracks_eq_selectTrack_iff :
    (∀ clientFd manager,
        setTracks request.url.text clientFd manager = request.selectTrack clientFd manager) ↔
      (strstr request.url.text (ascii "track0") →
        lastComponent request.url.text = ascii "track0" ∨
          lastComponent request.url.text = ascii "track1") ∧
      (strstr request.url.text (ascii "track1") →
        lastComponent request.url.text = ascii "track1") := by
  have different : ascii "track0" ≠ ascii "track1" := by decide
  constructor
  · intro same
    have flag := congrArg (fun manager => manager.avFlags_ 0) (same 0 .empty)
    simp only [setTracks_eq, RtspRequest.selectTrack, apply_ite (fun manager : ClientFdManager =>
      manager.avFlags_ 0), ClientFdManager.setAvFlags, Function.update_self,
      ClientFdManager.empty] at flag
    by_cases first : lastComponent request.url.text = ascii "track0"
    · refine ⟨fun _ => Or.inl first, fun second => ?_⟩
      rw [if_pos first, if_pos second] at flag
      exact absurd flag (by decide)
    · by_cases second : lastComponent request.url.text = ascii "track1"
      · exact ⟨fun _ => Or.inr second, fun _ => second⟩
      · rw [if_neg first, if_neg second] at flag
        constructor
        · intro named
          rw [if_pos named] at flag
          split_ifs at flag
        · intro named
          rw [if_pos named] at flag
          exact absurd flag (Option.some_ne_none true)
  · rintro ⟨named0, named1⟩ clientFd manager
    rw [setTracks_eq, RtspRequest.selectTrack]
    by_cases second : lastComponent request.url.text = ascii "track1"
    · rw [if_pos (strstr_of_lastComponent second), second, if_neg different.symm, if_pos rfl]
    · rw [if_neg fun named => second (named1 named), if_neg second]
      by_cases first : lastComponent request.url.text = ascii "track0"
      · rw [if_pos (strstr_of_lastComponent first), if_pos first]
      · have unnamed : ¬ strstr request.url.text (ascii "track0") = true := fun named =>
          (named0 named).elim first second
        rw [if_neg unnamed, if_neg first]

end Tracks

section Requests

variable (request : RtspRequest)

/-- The identifier that the session headers leave in the buffer. -/
def RtspRequest.readSession : Option (List UInt8) :=
  (request.headers.filterMap Header.readSession).getLast?

variable {request} (quiet : ∀ header ∈ request.headers, hasKeyword header.line = false)
  (surroundings : Surroundings) (handler : RtspHandler)

include quiet

theorem parseRequest_requestLine :
    (parseRequest request.received.bytes surroundings handler).method = request.method.text ∧
      (parseRequest request.received.bytes surroundings handler).url = request.url.text ∧
      { (parseRequest request.received.bytes surroundings handler).handler with session_ := [] } =
        { handler with
          session_ := []
          clientFdManager_ :=
            setTracks request.url.text handler.clientFd_ handler.clientFdManager_ } := by
  rw [parseRequest_received, parseLine_requestLine]
  exact foldl_requestLine quiet _

theorem parseRequest_CSeq :
    (parseRequest request.received.bytes surroundings handler).CSeq = storeInt request.cseq := by
  rw [parseRequest_received, foldl_CSeq quiet, request.oneCSeq]
  rfl

theorem parseRequest_session :
    (parseRequest request.received.bytes surroundings handler).handler.session_ =
      if request.headers.any Header.selectsSession then
        request.readSession.getD (cstring surroundings.recv_session)
      else handler.session_ := by
  rw [parseRequest_received, foldl_session quiet, foldl_recv_session quiet, parseLine_requestLine]
  rfl

end Requests

section SessionHeader

variable {request : RtspRequest}

theorem readSession_of_absent (header : Header) (absent : header.sessionValue = none) :
    header.readSession = none := by
  rw [Header.readSession, absent, ite_self]

/-- A session header that the sequence number branch leaves alone is read. -/
theorem readSession_eq (shown : ∀ header ∈ request.headers, header.sessionValue ≠ none →
      strstr header.line (ascii "CSeq") = false) :
    request.readSession = request.session := by
  have each : ∀ header ∈ request.headers, header.readSession = header.sessionValue := by
    intro header member
    by_cases absent : header.sessionValue = none
    · rw [readSession_of_absent header absent, absent]
    · rw [Header.readSession, if_neg (Bool.eq_false_iff.mp (shown header member absent))]
  rw [RtspRequest.readSession, List.filterMap_congr each, request.oneSession]
  cases request.session <;> rfl

/-- A session header that the sequence number branch takes is the only one and is not read. -/
theorem readSession_shadowed {header : Header} (member : header ∈ request.headers)
    {identifier : List UInt8} (value : header.sessionValue = some identifier)
    (shadowed : strstr header.line (ascii "CSeq") = true) :
    request.readSession = none ∧ request.session = some identifier := by
  have one := request.oneSession
  obtain ⟨before, after, shape⟩ := List.append_of_mem member
  have unread (headers : List Header) (absent : headers.filterMap Header.sessionValue = []) :
      headers.filterMap Header.readSession = [] := by
    rw [List.filterMap_eq_nil_iff] at absent ⊢
    exact fun other inside => readSession_of_absent other (absent other inside)
  have hidden : header.readSession = none := by
    rw [Header.readSession, if_pos shadowed]
  rw [shape, List.filterMap_append, List.filterMap_cons_some value] at one
  cases names : request.session with
  | none =>
      rw [names] at one
      exact absurd one (by simp)
  | some token =>
      rw [names, Option.toList_some, List.append_eq_singleton_iff] at one
      rcases one with ⟨first, rest⟩ | ⟨_, impossible⟩
      · rw [List.cons.injEq] at rest
        rw [RtspRequest.readSession, shape, List.filterMap_append, List.filterMap_cons_none hidden,
          unread before first, unread after rest.2, rest.1]
        exact ⟨rfl, rfl⟩
      · exact absurd impossible (List.cons_ne_nil _ _)

end SessionHeader

theorem sessionValue_ne_nil {header : Header} {identifier : List UInt8}
    (value : header.sessionValue = some identifier) : identifier ≠ [] := by
  cases header with
  | cseq => exact absurd value.symm (Option.some_ne_none identifier)
  | other => exact absurd value.symm (Option.some_ne_none identifier)
  | session blanks token fits =>
      obtain rfl := Option.some.inj value
      exact token.nonempty

section Requests

variable {request : RtspRequest}

/-- An unambiguous request is read as it stands. -/
theorem faithful_of_unambiguous (clear : request.Unambiguous) : request.Faithful := by
  intro surroundings handler fresh
  obtain ⟨method, url, kept⟩ := parseRequest_requestLine clear.quiet surroundings handler
  have session := parseRequest_session clear.quiet surroundings handler
  have tracks := (setTracks_eq_selectTrack_iff request).mpr ⟨clear.track0, clear.track1⟩
  rw [readSession_eq clear.session, fresh] at session
  have selected : (parseRequest request.received.bytes surroundings handler).handler.session_ =
      request.session.getD [] := by
    rw [session]
    cases named : request.session with
    | none =>
        have nobody : request.headers.any Header.selectsSession = false := by
          rw [List.any_eq_false]
          exact fun header member => Bool.eq_false_iff.mp (clear.absent named header member)
        rw [if_neg (Bool.eq_false_iff.mp nobody), Option.getD_none]
    | some identifier =>
        have inside : identifier ∈ request.headers.filterMap Header.sessionValue := by
          rw [request.oneSession, named]
          exact List.mem_singleton_self identifier
        obtain ⟨header, member, value⟩ := List.mem_filterMap.mp inside
        have present : header.sessionValue ≠ none := by
          rw [value]
          exact Option.some_ne_none identifier
        have reads : header.readSession ≠ none := by
          rwa [Header.readSession,
            if_neg (Bool.eq_false_iff.mp (clear.session header member present))]
        have somebody : request.headers.any Header.selectsSession = true :=
          List.any_eq_true.mpr ⟨header, member, header.selectsSession_of_readSession reads⟩
        rw [if_pos somebody, Option.getD_some, Option.getD_some]
  constructor
  · exact method
  · exact url
  · rw [parseRequest_CSeq clear.quiet, storeInt_eq_iff]
    exact clear.cseq
  · rw [tracks] at kept
    rw [← selected]
    cases read : (parseRequest request.received.bytes surroundings handler).handler
    rw [read] at kept
    simpa using kept

/-- These surroundings leave the given bytes in the session buffer. -/
def leftover (recv_session : List UInt8) : Surroundings := { emptySurroundings with recv_session }

def emptyHandler (clientFd_ : Nat) (clientFdManager_ : ClientFdManager) : RtspHandler where
  clientFd_ := clientFd_
  clientIp_ := []
  session_ := []
  sessionManager_ := .empty
  clientFdManager_ := clientFdManager_

theorem quiet_of_faithful (faithful : request.Faithful) :
    ∀ header ∈ request.headers, hasKeyword header.line = false := by
  intro header member
  by_contra keyword
  have method := (faithful emptySurroundings (emptyHandler 0 .empty) rfl).method
  have colon : 0x3A ∈ request.method.text := by
    rw [← method, parseRequest_received]
    exact method_of_keyword _ _ member (eq_true_of_ne_false keyword)
  revert colon
  cases request.method <;> decide

/-- Only an unambiguous request is read as it stands whatever the state of the server is. -/
theorem unambiguous_of_faithful (faithful : request.Faithful) : request.Unambiguous := by
  have quiet := quiet_of_faithful faithful
  have session (recv_session : List UInt8) :
      (if request.headers.any Header.selectsSession then
        request.readSession.getD (cstring recv_session) else []) = request.session.getD [] := by
    have read := (faithful (leftover recv_session) (emptyHandler 0 .empty) rfl).handler
    have parsed := parseRequest_session quiet (leftover recv_session) (emptyHandler 0 .empty)
    rw [read] at parsed
    exact parsed.symm
  have tracks : ∀ clientFd manager,
      setTracks request.url.text clientFd manager = request.selectTrack clientFd manager := by
    intro clientFd manager
    have read := (faithful emptySurroundings (emptyHandler clientFd manager) rfl).handler
    have parsed :=
      (parseRequest_requestLine quiet emptySurroundings (emptyHandler clientFd manager)).2.2
    rw [read] at parsed
    exact (congrArg RtspHandler.clientFdManager_ parsed).symm
  obtain ⟨track0, track1⟩ := (setTracks_eq_selectTrack_iff request).mp tracks
  constructor
  · exact quiet
  · have read := (faithful emptySurroundings (emptyHandler 0 .empty) rfl).cseq
    rw [parseRequest_CSeq quiet, storeInt_eq_iff] at read
    exact read
  · intro header member present
    by_contra numbered
    obtain ⟨identifier, value⟩ := Option.ne_none_iff_exists'.mp present
    obtain ⟨hidden, named⟩ :=
      readSession_shadowed member value (eq_true_of_ne_false numbered)
    have lost := session []
    rw [hidden, named, show cstring [] = [] from rfl, Option.getD_none, ite_self,
      Option.getD_some] at lost
    exact sessionValue_ne_nil value lost.symm
  · intro absent header member
    by_contra selects
    have somebody : request.headers.any Header.selectsSession = true :=
      List.any_eq_true.mpr ⟨header, member, eq_true_of_ne_false selects⟩
    have nothing : request.readSession = none := by
      have headers := request.oneSession
      rw [absent, Option.toList_none, List.filterMap_eq_nil_iff] at headers
      rw [RtspRequest.readSession, List.getLast?_eq_none_iff, List.filterMap_eq_nil_iff]
      exact fun other inside => readSession_of_absent other (headers other inside)
    have invented := session [0x31]
    rw [if_pos somebody, nothing, absent] at invented
    exact absurd invented (by decide)
  · exact track0
  · exact track1

/-- The loop reads exactly the unambiguous requests as they stand. -/
theorem faithful_iff_unambiguous (request : RtspRequest) :
    request.Faithful ↔ request.Unambiguous :=
  ⟨unambiguous_of_faithful, faithful_of_unambiguous⟩

/-- The agent of this request has the name of a method. -/
def playerRequest : RtspRequest where
  method := .OPTIONS
  url := ⟨ascii "rtsp://h/", by decide, by simp [ascii, isspace]⟩
  headers := [
    .cseq ⟨ascii " ", by simp [ascii]⟩ ⟨ascii "1", by decide, by simp [ascii, isdigit]⟩,
    .other ⟨ascii "User-Agent", by decide, by simp [ascii, isspace]⟩ (ascii " PLAYER")
      (by decide) (by decide) (by decide)]
  urlFits := by decide
  cseq := 1
  oneCSeq := by decide
  session := none
  oneSession := by decide
  fits := by decide

theorem playerRequest_unfaithful :
    (parseRequest playerRequest.received.bytes emptySurroundings (emptyHandler 0 .empty)).method =
        ascii "User-Agent:" ∧
      ¬ playerRequest.Faithful := by
  have method : (parseRequest playerRequest.received.bytes emptySurroundings
      (emptyHandler 0 .empty)).method = ascii "User-Agent:" := by
    decide +kernel
  refine ⟨method, fun faithful => ?_⟩
  have expected := (faithful emptySurroundings (emptyHandler 0 .empty) rfl).method
  rw [method] at expected
  exact absurd expected (by decide)

end Requests

end FzServer.Parsing
