import FzServer.Proof.Parsing.Reading
import FzServer.Proof.Reply.Status
import FzServer.Proof.Session.Requests

/-
This file finds the requests whose reply shows what the local arrays held before.
-/

namespace FzServer.Parsing

open Foundation Sessions Rtsp Server Replies

/-- The arrays of the handler and its reply buffer start with these bytes. -/
structure Residue where
  method : List UInt8
  url : List UInt8
  version : List UInt8
  recv_session : List UInt8
  sBuf : List UInt8

def Residue.none : Residue := ⟨[], [], [], [], []⟩

def Residue.fill (residue : Residue) (surroundings : Surroundings) : Surroundings :=
  { surroundings with
    method := residue.method
    url := residue.url
    version := residue.version
    recv_session := residue.recv_session
    sBuf := residue.sBuf }

/-- This is the first word of the first line. -/
def requestMethod (lines : List (List UInt8)) : Option (List UInt8) :=
  (lines.head?.bind scanToken).map Prod.fst

/-- The reply and the tables do not depend on the residue, and an unsupported method is refused. -/
structure Determined (received : List UInt8) (surroundings : Surroundings) (handler : RtspHandler) :
    Prop where
  same : ∀ first second : Residue,
    interact_rtsp_tcp received (first.fill surroundings) handler =
      interact_rtsp_tcp received (second.fill surroundings) handler
  refuses : ∀ method, requestMethod (receivedText received surroundings) = some method →
    Method.ofText method = .none → ∀ residue : Residue, ∃ text,
      interact_rtsp_tcp received (residue.fill surroundings) handler =
          some ⟨text, handler.sessionManager_, handler.clientFdManager_⟩ ∧
        statusOf text = ascii "RTSP/1.0 501"

/-- The last line with a keyword selects the branch. -/
def dispatched (lines : List (List UInt8)) : Option Method :=
  (lastRead methodOn lines).bind Method.ofText

/-- The flag of the descriptor after the lines selects the second track. -/
def joinsSecond (lines : List (List UInt8)) (handler : RtspHandler) : Bool :=
  (lastRead trackOn lines).getD (handler.clientFdManager_.flag handler.clientFd_)

/-- The lines write everything that the branch reads. -/
structure Decided (lines : List (List UInt8)) (handler : RtspHandler) : Prop where
  method : lastRead methodOn lines ≠ .none
  describe : dispatched lines = some .DESCRIBE → lastRead urlOn lines ≠ .none
  setup : dispatched lines = some .SETUP →
    lastRead numberOn lines = some 3 ∨ lastRead numberOn lines = some 4 ∨
      joinsSecond lines handler = true ∧ handler.sessionManager_.getSession
        (handler.clientFdManager_.sessionId handler.clientFd_) = .none
  play : dispatched lines = some .PLAY → lines.any namesSession = true →
    lastRead sessionOn lines = .none →
      ∀ session, 0 ∉ session → handler.sessionManager_.getSession session = .none
  unsupported : ∀ method, requestMethod lines = some method → Method.ofText method = .none →
    dispatched lines = .none ∧ ∀ flag, lastRead trackOn lines = some flag →
      handler.clientFdManager_.avFlags_ handler.clientFd_ = some flag

section Respond

variable (surroundings : Surroundings) (handler : RtspHandler) (CSeq : Int)
  {method : List UInt8} (url : List UInt8)

/-- This is what the handler sends and leaves once the lines are read. -/
def respond (method : List UInt8) : Option Interaction :=
  (build_string_tcp surroundings handler CSeq method url).map fun built =>
    ⟨replyText built CSeq, built.handler.sessionManager_, built.handler.clientFdManager_⟩

/-- This text leaves the tables as they are. -/
def unchanged (handler : RtspHandler) (text : List UInt8) : Option Interaction :=
  some ⟨text, handler.sessionManager_, handler.clientFdManager_⟩

@[simp] theorem unchanged_text (text : List UInt8) :
    (unchanged handler text).map Interaction.text = some text := rfl

theorem respond_unsupported (kind : Method.ofText method = none) :
    respond surroundings handler CSeq url method = unchanged handler (notImplemented CSeq) := by
  rw [respond, build_string_tcp, kind]
  rfl

theorem respond_OPTIONS (kind : Method.ofText method = some .OPTIONS) :
    respond surroundings handler CSeq url method = unchanged handler (handleCmd_OPTIONS CSeq) := by
  rw [respond, build_string_tcp, kind]
  rfl

theorem respond_DESCRIBE (kind : Method.ofText method = some .DESCRIBE) :
    respond surroundings handler CSeq url method = unchanged handler
      (handleCmd_DESCRIBE surroundings.time (cstring surroundings.localIp) CSeq url) := by
  rw [respond, build_string_tcp, kind]
  rfl

theorem respond_PAUSE (kind : Method.ofText method = some .PAUSE) :
    respond surroundings handler CSeq url method =
      unchanged handler (handleCmd_PAUSE surroundings.gmtTime CSeq) := by
  rw [respond, build_string_tcp, kind]
  rfl

theorem respond_TEARDOWN (kind : Method.ofText method = some .TEARDOWN) :
    respond surroundings handler CSeq url method = unchanged handler (handleCmd_TEARDOWN CSeq) := by
  rw [respond, build_string_tcp, kind]
  rfl

/-- A PLAY request without a session is refused. -/
theorem respond_PLAY_refused (kind : Method.ofText method = some .PLAY)
    (missing : handler.sessionManager_.getSession handler.session_ = none) :
    respond surroundings handler CSeq url method = unchanged handler (serverError CSeq) := by
  rw [respond, build_string_tcp, kind]
  simp only [buildPlay, missing]
  rfl

theorem respond_PLAY (kind : Method.ofText method = some .PLAY) {ss : Session}
    (found : handler.sessionManager_.getSession handler.session_ = some ss) :
    respond surroundings handler CSeq url method =
      some ⟨handleCmd_PLAY CSeq handler.session_,
        handler.sessionManager_.addSession handler.session_ (ss.setState .PLAYING),
        handler.clientFdManager_⟩ := by
  rw [respond, build_string_tcp, kind]
  simp only [buildPlay, found]
  rfl

/-- A request for the second track finds the session of its descriptor. -/
def Joined (handler : RtspHandler) : Prop :=
  handler.clientFdManager_.flag handler.clientFd_ = true →
    handler.sessionManager_.getSession
      (handler.clientFdManager_.sessionId handler.clientFd_) ≠ none

/-- Only the reply to SETUP shows the residue, and only for a number without an announcement. -/
theorem respond_SETUP (kind : Method.ofText method = some .SETUP) (joined : Joined handler) :
    ∃ session sessionManager clientFdManager, ∀ (residue : Residue) session_ url,
      respond (residue.fill surroundings) { handler with session_ } CSeq url method =
        some ⟨handleCmd_SETUP_TCP (cstring residue.sBuf) CSeq session, sessionManager,
          clientFdManager⟩ := by
  cases track : handler.clientFdManager_.flag handler.clientFd_ with
  | false =>
      let done := setupFirst surroundings handler CSeq
        (handler.clientFdManager_.getAvFlags handler.clientFd_).2
      refine ⟨done.handler.session_, done.handler.sessionManager_, done.handler.clientFdManager_,
        fun residue session_ url => ?_⟩
      have first : (handler.clientFdManager_.getAvFlags handler.clientFd_).1 = false := track
      rw [respond, build_string_tcp, kind]
      simp only [buildSetup, first, if_true]
      rfl
  | true =>
      obtain ⟨sess, found⟩ := Option.ne_none_iff_exists'.mp (joined track)
      let flags := (handler.clientFdManager_.getAvFlags handler.clientFd_).2
      refine ⟨(flags.getSessionIds handler.clientFd_).1,
        handler.sessionManager_.addSession (flags.getSessionIds handler.clientFd_).1
          (sess.setInfo .audio surroundings.attr),
        (flags.getSessionIds handler.clientFd_).2, fun residue session_ url => ?_⟩
      have second : ¬(handler.clientFdManager_.getAvFlags handler.clientFd_).1 = false := by
        rw [show (handler.clientFdManager_.getAvFlags handler.clientFd_).1 = true from track]
        exact Bool.noConfusion
      have named : handler.sessionManager_.getSession
          ((handler.clientFdManager_.getAvFlags handler.clientFd_).2.getSessionIds
            handler.clientFd_).1 = some sess := found
      rw [respond, build_string_tcp, kind]
      simp only [buildSetup, if_neg second, setupSecond, named]
      rfl

/-- Without the session of the descriptor there is no reply. -/
theorem respond_SETUP_null (kind : Method.ofText method = some .SETUP)
    (parted : ¬Joined handler) : respond surroundings handler CSeq url method = none := by
  obtain ⟨second, missing⟩ := Classical.not_imp.mp parted
  rw [not_not] at missing
  have flag : ¬(handler.clientFdManager_.getAvFlags handler.clientFd_).1 = false := by
    rw [show (handler.clientFdManager_.getAvFlags handler.clientFd_).1 = true from second]
    exact Bool.noConfusion
  have named : handler.sessionManager_.getSession
      ((handler.clientFdManager_.getAvFlags handler.clientFd_).2.getSessionIds
        handler.clientFd_).1 = none := missing
  rw [respond, build_string_tcp, kind]
  simp only [buildSetup, if_neg flag, setupSecond, named]
  rfl

theorem ok_notImplemented : ascii "RTSP/1.0 200" ≠ ascii "RTSP/1.0 501" := by decide

theorem serverError_notImplemented : ascii "RTSP/1.0 500" ≠ ascii "RTSP/1.0 501" := by decide

/-- No supported method is refused like an unsupported one. -/
theorem status_supported {supported : Method} (kind : Method.ofText method = some supported)
    (announced : supported = .SETUP → Joined handler → CSeq = 3 ∨ CSeq = 4) {sent : Interaction}
    (answer : respond surroundings handler CSeq url method = some sent) :
    statusOf sent.text ≠ ascii "RTSP/1.0 501" := by
  cases supported with
  | OPTIONS =>
      cases (respond_OPTIONS _ _ _ _ kind).symm.trans answer
      rw [statusOf_OPTIONS]
      exact ok_notImplemented
  | DESCRIBE =>
      cases (respond_DESCRIBE _ _ _ _ kind).symm.trans answer
      rw [statusOf_DESCRIBE]
      exact ok_notImplemented
  | PAUSE =>
      cases (respond_PAUSE _ _ _ _ kind).symm.trans answer
      rw [statusOf_PAUSE]
      exact ok_notImplemented
  | TEARDOWN =>
      cases (respond_TEARDOWN _ _ _ _ kind).symm.trans answer
      rw [statusOf_TEARDOWN]
      exact ok_notImplemented
  | PLAY =>
      cases found : handler.sessionManager_.getSession handler.session_ with
      | none =>
          cases (respond_PLAY_refused _ _ _ _ kind found).symm.trans answer
          rw [statusOf_serverError]
          exact serverError_notImplemented
      | some ss =>
          cases (respond_PLAY _ _ _ _ kind found).symm.trans answer
          rw [statusOf_PLAY]
          exact ok_notImplemented
  | SETUP =>
      by_cases joined : Joined handler
      · obtain ⟨session, _, _, all⟩ := respond_SETUP surroundings handler CSeq kind joined
        have answered := all ⟨surroundings.method, surroundings.url, surroundings.version,
          surroundings.recv_session, surroundings.sBuf⟩ handler.session_ url
        cases answered.symm.trans answer
        rw [statusOf_SETUP _ _ _ (announced rfl joined)]
        exact ok_notImplemented
      · cases (respond_SETUP_null _ _ _ _ kind joined).symm.trans answer

end Respond

section Read

variable (received : List UInt8) (surroundings : Surroundings) (handler : RtspHandler)

/-- The lines put the track that they name into the table. -/
def tracked (lines : List (List UInt8)) (handler : RtspHandler) : RtspHandler :=
  { handler with
    clientFdManager_ :=
      selectTrack (lastRead trackOn lines) handler.clientFd_ handler.clientFdManager_ }

/-- A line that only looks like a session header takes what the array held. -/
def sessionRead (lines : List (List UInt8)) (handler : RtspHandler) (residue : Residue) :
    List UInt8 :=
  if lines.any namesSession then (lastRead sessionOn lines).getD (cstring residue.recv_session)
  else handler.session_

/-- The residue reaches the reply through five values. -/
theorem interact_read (residue : Residue) :
    interact_rtsp_tcp received (residue.fill surroundings) handler =
      let lines := receivedText received surroundings
      respond (residue.fill surroundings)
        { tracked lines handler with session_ := sessionRead lines handler residue }
        ((lastRead numberOn lines).getD (-1))
        ((lastRead urlOn lines).getD (cstring residue.url))
        ((lastRead methodOn lines).getD (cstring residue.method)) := by
  have read := parseRequest_read received (residue.fill surroundings) handler
  rw [interact_rtsp_tcp]
  simp only [read.method, read.url, read.CSeq, read.handler, read.recv_session]
  rfl

theorem tracked_flag (lines : List (List UInt8)) (handler : RtspHandler) :
    (tracked lines handler).clientFdManager_.flag handler.clientFd_ = joinsSecond lines handler := by
  rw [tracked, joinsSecond]
  cases lastRead trackOn lines with
  | none => rfl
  | some flag => simp [selectTrack, ClientFdManager.setAvFlags, ClientFdManager.flag]

theorem tracked_sessionId (lines : List (List UInt8)) (handler : RtspHandler) :
    (tracked lines handler).clientFdManager_.sessionId handler.clientFd_ =
      handler.clientFdManager_.sessionId handler.clientFd_ := by
  rw [tracked]
  cases lastRead trackOn lines <;> rfl

/-- The lines leave the table alone exactly when it already holds the track. -/
theorem tracked_same_iff (lines : List (List UInt8)) (handler : RtspHandler) :
    (tracked lines handler).clientFdManager_ = handler.clientFdManager_ ↔
      ∀ flag, lastRead trackOn lines = some flag →
        handler.clientFdManager_.avFlags_ handler.clientFd_ = some flag := by
  rw [tracked]
  cases lastRead trackOn lines with
  | none => simp [selectTrack]
  | some flag =>
      simp only [selectTrack, Option.some.injEq, forall_eq']
      constructor
      · intro same
        have entry := congrArg (fun manager => manager.avFlags_ handler.clientFd_) same
        simpa [ClientFdManager.setAvFlags] using entry.symm
      · intro held
        rw [ClientFdManager.setAvFlags, ← held, Function.update_eq_self]

/-- A C string holds no zero byte. -/
theorem zero_notMem_cstring (memory : List UInt8) : 0 ∉ cstring memory := by
  intro member
  exact absurd (List.mem_takeWhile_imp member) (by decide)

/-- An announced reply does not show what the buffer held. -/
theorem setupReply_announced {CSeq : Int} (number : CSeq = 3 ∨ CSeq = 4) (first second : List UInt8)
    (session : List UInt8) :
    handleCmd_SETUP_TCP first CSeq session = handleCmd_SETUP_TCP second CSeq session := by
  rcases number with rfl | rfl <;> rfl

/-- The lines keep the session of the descriptor. -/
theorem joined_tracked_iff (lines : List (List UInt8)) (handler : RtspHandler) :
    Joined (tracked lines handler) ↔
      ¬(joinsSecond lines handler = true ∧ handler.sessionManager_.getSession
        (handler.clientFdManager_.sessionId handler.clientFd_) = none) := by
  rw [not_and, ← tracked_flag, ← tracked_sessionId lines]
  rfl

/-- A request that joins has a number with an announcement. -/
theorem announced_of_joined {lines : List (List UInt8)} {handler : RtspHandler}
    (number : lastRead numberOn lines = some 3 ∨ lastRead numberOn lines = some 4 ∨
      joinsSecond lines handler = true ∧ handler.sessionManager_.getSession
        (handler.clientFdManager_.sessionId handler.clientFd_) = none)
    (joined : Joined (tracked lines handler)) :
    (lastRead numberOn lines).getD (-1) = 3 ∨ (lastRead numberOn lines).getD (-1) = 4 := by
  rcases number with three | four | parted
  · exact Or.inl (by rw [three, Option.getD_some])
  · exact Or.inr (by rw [four, Option.getD_some])
  · exact absurd parted ((joined_tracked_iff lines handler).mp joined)

variable {handler}

/-- A SETUP request with an announced number has one outcome. -/
theorem respond_SETUP_same {lines : List (List UInt8)} {method : List UInt8}
    (kind : Method.ofText method = some .SETUP)
    (number : lastRead numberOn lines = some 3 ∨ lastRead numberOn lines = some 4 ∨
      joinsSecond lines handler = true ∧ handler.sessionManager_.getSession
        (handler.clientFdManager_.sessionId handler.clientFd_) = none) :
    ∃ outcome, ∀ (residue : Residue) session_ url,
      respond (residue.fill surroundings) { tracked lines handler with session_ }
        ((lastRead numberOn lines).getD (-1)) url method = outcome := by
  by_cases joined : Joined (tracked lines handler)
  · let CSeq := (lastRead numberOn lines).getD (-1)
    obtain ⟨session, sessionManager, clientFdManager, sent⟩ :=
      respond_SETUP surroundings _ CSeq kind joined
    refine ⟨some ⟨handleCmd_SETUP_TCP [] CSeq session, sessionManager, clientFdManager⟩,
      fun residue session_ url => (sent residue session_ url).trans ?_⟩
    rw [setupReply_announced (announced_of_joined number joined) (cstring residue.sBuf) []]
  · exact ⟨none, fun residue session_ url => respond_SETUP_null _ _ _ _ kind joined⟩

/-- A PLAY request has one outcome when the array cannot name a session. -/
theorem respond_PLAY_same {lines : List (List UInt8)} {method : List UInt8} (CSeq : Int)
    (kind : Method.ofText method = some .PLAY)
    (nobody : lines.any namesSession = true → lastRead sessionOn lines = none →
      ∀ session, 0 ∉ session → handler.sessionManager_.getSession session = none) :
    ∃ outcome, ∀ (residue : Residue) url,
      respond (residue.fill surroundings)
        { tracked lines handler with session_ := sessionRead lines handler residue }
        CSeq url method = outcome := by
  let parsed := tracked lines handler
  by_cases shown : lines.any namesSession = true → lastRead sessionOn lines ≠ none
  · -- Then the name of the session does not come from the array.
    have fixed (residue : Residue) :
        sessionRead lines handler residue = sessionRead lines handler .none := by
      rw [sessionRead, sessionRead]
      by_cases named : lines.any namesSession = true
      · obtain ⟨session, read⟩ := Option.ne_none_iff_exists'.mp (shown named)
        rw [read, Option.getD_some, Option.getD_some]
      · rw [if_neg named, if_neg named]
    simp only [fixed]
    cases found : parsed.sessionManager_.getSession (sessionRead lines handler .none) with
    | none =>
        exact ⟨unchanged parsed (serverError CSeq),
          fun residue url => respond_PLAY_refused _ _ _ _ kind found⟩
    | some ss =>
        exact ⟨some ⟨handleCmd_PLAY CSeq (sessionRead lines handler .none),
            parsed.sessionManager_.addSession (sessionRead lines handler .none)
              (ss.setState .PLAYING), parsed.clientFdManager_⟩,
          fun residue url => respond_PLAY _ _ _ _ kind found⟩
  · rw [Classical.not_imp, not_not] at shown
    refine ⟨unchanged parsed (serverError CSeq), fun residue url =>
      respond_PLAY_refused _ _ _ _ kind (nobody shown.1 shown.2 _ ?_)⟩
    rw [sessionRead, if_pos shown.1, shown.2, Option.getD_none]
    exact zero_notMem_cstring residue.recv_session

/-- A decided request has one outcome. -/
theorem same_of_decided (decided : Decided (receivedText received surroundings) handler) :
    ∃ outcome, ∀ residue : Residue,
      interact_rtsp_tcp received (residue.fill surroundings) handler = outcome := by
  obtain ⟨method, known⟩ := Option.ne_none_iff_exists'.mp decided.method
  simp only [interact_read, known, Option.getD_some]
  have branch : dispatched (receivedText received surroundings) = Method.ofText method := by
    rw [dispatched, known, Option.bind_some]
  generalize lines : receivedText received surroundings = text at decided known branch ⊢
  let parsed := tracked text handler
  let CSeq := (lastRead numberOn text).getD (-1)
  cases kind : Method.ofText method with
  | none =>
      exact ⟨unchanged parsed (notImplemented CSeq), fun _ => respond_unsupported _ _ _ _ kind⟩
  | some supported =>
      rw [kind] at branch
      cases supported with
      | OPTIONS =>
          exact ⟨unchanged parsed (handleCmd_OPTIONS CSeq), fun _ => respond_OPTIONS _ _ _ _ kind⟩
      | PAUSE =>
          exact ⟨unchanged parsed (handleCmd_PAUSE surroundings.gmtTime CSeq),
            fun _ => respond_PAUSE _ _ _ _ kind⟩
      | TEARDOWN =>
          exact ⟨unchanged parsed (handleCmd_TEARDOWN CSeq), fun _ => respond_TEARDOWN _ _ _ _ kind⟩
      | DESCRIBE =>
          obtain ⟨url, found⟩ := Option.ne_none_iff_exists'.mp (decided.describe branch)
          simp only [found, Option.getD_some]
          exact ⟨unchanged parsed
              (handleCmd_DESCRIBE surroundings.time (cstring surroundings.localIp) CSeq url),
            fun _ => respond_DESCRIBE _ _ _ _ kind⟩
      | SETUP =>
          obtain ⟨outcome, same⟩ := respond_SETUP_same surroundings kind (decided.setup branch)
          exact ⟨outcome, fun residue => same residue _ _⟩
      | PLAY =>
          obtain ⟨outcome, same⟩ := respond_PLAY_same surroundings CSeq kind (decided.play branch)
          exact ⟨outcome, fun residue => same residue _⟩

/-- A decided request with an unsupported method is refused and changes no table. -/
theorem refuses_of_decided (decided : Decided (receivedText received surroundings) handler)
    {method : List UInt8} (asked : requestMethod (receivedText received surroundings) = some method)
    (kind : Method.ofText method = none) (residue : Residue) :
    interact_rtsp_tcp received (residue.fill surroundings) handler =
      unchanged handler
        (notImplemented ((lastRead numberOn (receivedText received surroundings)).getD (-1))) := by
  obtain ⟨nothing, held⟩ := decided.unsupported method asked kind
  obtain ⟨last, known⟩ := Option.ne_none_iff_exists'.mp decided.method
  rw [dispatched, known, Option.bind_some] at nothing
  rw [interact_read]
  simp only [known, Option.getD_some]
  rw [respond_unsupported _ _ _ _ nothing, unchanged, unchanged]
  have same := (tracked_same_iff (receivedText received surroundings) handler).mpr held
  rw [same]
  rfl

section Undecided

variable (determined : Determined received surroundings handler)

include determined

/-- Two residues give the same bytes. -/
theorem texts_agree (first second : Residue) :
    (interact_rtsp_tcp received (first.fill surroundings) handler).map Interaction.text =
      (interact_rtsp_tcp received (second.fill surroundings) handler).map Interaction.text :=
  congrArg (Option.map Interaction.text) (determined.same first second)

/-- Without a keyword the array itself is taken for the method. -/
theorem method_of_determined : lastRead methodOn (receivedText received surroundings) ≠ none := by
  intro unread
  have same := texts_agree received surroundings determined
    { Residue.none with method := ascii "OPTIONS" } .none
  have options : Method.ofText (cstring (ascii "OPTIONS")) = some .OPTIONS := by decide
  have nothing : Method.ofText (cstring []) = none := by decide
  rw [interact_read, interact_read] at same
  simp only [unread, Option.getD_none, Residue.none] at same
  rw [respond_OPTIONS _ _ _ _ options, respond_unsupported _ _ _ _ nothing, unchanged_text,
    unchanged_text] at same
  have status := congrArg statusOf (Option.some.inj same)
  rw [statusOf_OPTIONS, statusOf_notImplemented] at status
  exact absurd status (by decide)

variable {method : List UInt8}
  (known : lastRead methodOn (receivedText received surroundings) = some method)

include known

/-- Without a second word the array is taken for the url. -/
theorem url_of_determined (kind : Method.ofText method = some .DESCRIBE) :
    lastRead urlOn (receivedText received surroundings) ≠ none := by
  intro unread
  have same := texts_agree received surroundings determined
    { Residue.none with url := [0x61] } .none
  rw [interact_read, interact_read] at same
  simp only [known, unread, Option.getD_none, Option.getD_some, Residue.none] at same
  rw [respond_DESCRIBE _ _ _ _ kind, respond_DESCRIBE _ _ _ _ kind, unchanged_text,
    unchanged_text] at same
  have lengths := congrArg List.length (Option.some.inj same)
  have host (localIp : List UInt8) : scanLocalIp (cstring [0x61]) localIp = localIp ∧
      scanLocalIp (cstring []) localIp = localIp := ⟨rfl, rfl⟩
  have longer : (cstring [0x61]).length = (cstring []).length + 1 := rfl
  simp only [handleCmd_DESCRIBE, host, List.length_append, longer] at lengths
  simp only [Residue.fill] at lengths
  omega

/-- Without an announcement the reply buffer is sent as it is. -/
theorem number_of_determined (kind : Method.ofText method = some .SETUP) :
    lastRead numberOn (receivedText received surroundings) = some 3 ∨
      lastRead numberOn (receivedText received surroundings) = some 4 ∨
      joinsSecond (receivedText received surroundings) handler = true ∧
        handler.sessionManager_.getSession
          (handler.clientFdManager_.sessionId handler.clientFd_) = none := by
  by_contra undecided
  rw [not_or, not_or] at undecided
  obtain ⟨three, four, parted⟩ := undecided
  obtain ⟨session, sessionManager, clientFdManager, sent⟩ := respond_SETUP surroundings _
    ((lastRead numberOn (receivedText received surroundings)).getD (-1)) kind
    ((joined_tracked_iff _ handler).mpr parted)
  have same := texts_agree received surroundings determined
    { Residue.none with sBuf := [0x61] } .none
  have silent (sBuf : List UInt8) : handleCmd_SETUP_TCP sBuf
      ((lastRead numberOn (receivedText received surroundings)).getD (-1)) session = sBuf := by
    rw [handleCmd_SETUP_TCP]
    cases read : lastRead numberOn (receivedText received surroundings) with
    | none => rfl
    | some number =>
        rw [Option.getD_some, if_neg fun same => three (by rw [read, same]),
          if_neg fun same => four (by rw [read, same])]
  rw [interact_read, interact_read] at same
  simp only [known, Option.getD_some] at same
  rw [sent, sent, Option.map_some, Option.map_some, silent, silent] at same
  have shown : cstring [0x61] = cstring [] := Option.some.inj same
  exact absurd shown (by decide)

/-- Without a readable name the array is taken for the name of the session. -/
theorem session_of_determined (kind : Method.ofText method = some .PLAY)
    (named : (receivedText received surroundings).any namesSession = true)
    (unread : lastRead sessionOn (receivedText received surroundings) = none)
    (session : List UInt8) (solid : 0 ∉ session) :
    handler.sessionManager_.getSession session = none := by
  by_contra stored
  obtain ⟨ss, found⟩ := Option.ne_none_iff_exists'.mp stored
  have whole {name : List UInt8} (solid : 0 ∉ name) : cstring name = name := by
    rw [cstring, List.takeWhile_eq_self_iff]
    exact fun character member => decide_eq_true fun zero => solid (zero ▸ member)
  have other : 0 ∉ 0x61 :: session := by simp [solid]
  have name (residue : Residue) : sessionRead (receivedText received surroundings) handler residue =
      cstring residue.recv_session := by
    rw [sessionRead, if_pos named, unread, Option.getD_none]
  have same := texts_agree received surroundings determined
    { Residue.none with recv_session := session } { Residue.none with recv_session := 0x61 :: session }
  rw [interact_read, interact_read] at same
  simp only [known, Option.getD_some, name, whole solid, whole other] at same
  rw [respond_PLAY _ _ _ _ kind found] at same
  cases answered : handler.sessionManager_.getSession (0x61 :: session) with
  | none =>
      rw [respond_PLAY_refused _ _ _ _ kind answered, unchanged_text, Option.map_some] at same
      have status := congrArg statusOf (Option.some.inj same)
      rw [statusOf_PLAY, statusOf_serverError] at status
      exact absurd status (by decide)
  | some another =>
      rw [respond_PLAY _ _ _ _ kind answered, Option.map_some, Option.map_some] at same
      have lengths := congrArg List.length (Option.some.inj same)
      simp only [handleCmd_PLAY, List.length_append, List.length_cons] at lengths
      omega

/-- A method of the first line that nothing supports reaches the branch that refuses it. -/
theorem unsupported_of_determined {asked : List UInt8}
    (first : requestMethod (receivedText received surroundings) = some asked)
    (nothing : Method.ofText asked = none) :
    Method.ofText method = none ∧
      ∀ flag, lastRead trackOn (receivedText received surroundings) = some flag →
        handler.clientFdManager_.avFlags_ handler.clientFd_ = some flag := by
  obtain ⟨refusal, sent, refused⟩ := determined.refuses asked first nothing .none
  have number := number_of_determined received surroundings determined known
  rw [interact_read] at sent
  simp only [known, Option.getD_some] at sent
  cases kind : Method.ofText method with
  | none =>
      refine ⟨rfl, (tracked_same_iff (receivedText received surroundings) handler).mp ?_⟩
      rw [respond_unsupported _ _ _ _ kind, unchanged, Option.some.injEq] at sent
      exact congrArg Interaction.clientFdManager_ sent
  | some supported =>
      exfalso
      refine status_supported _ _ _ _ kind (fun setup joined => ?_) sent refused
      exact announced_of_joined (number (setup ▸ kind)) joined

end Undecided

/-- The reply is determined exactly when the lines write everything that it needs. -/
theorem determined_iff_decided : Determined received surroundings handler ↔
    Decided (receivedText received surroundings) handler := by
  constructor
  · intro determined
    have written := method_of_determined received surroundings determined
    obtain ⟨method, known⟩ := Option.ne_none_iff_exists'.mp written
    have branch : dispatched (receivedText received surroundings) = Method.ofText method := by
      rw [dispatched, known, Option.bind_some]
    refine ⟨written, ?_, ?_, ?_, ?_⟩
    · rw [branch]
      exact url_of_determined received surroundings determined known
    · rw [branch]
      exact number_of_determined received surroundings determined known
    · rw [branch]
      exact session_of_determined received surroundings determined known
    · rw [branch]
      exact fun _ => unsupported_of_determined received surroundings determined known
  · intro decided
    obtain ⟨outcome, same⟩ := same_of_decided received surroundings decided
    refine ⟨fun first second => (same first).trans (same second).symm, ?_⟩
    intro method asked kind residue
    exact ⟨_, refuses_of_decided received surroundings decided asked kind residue,
      statusOf_notImplemented _⟩

end Read

/-- This holds of every request in every state of the tables. -/
theorem reply_determined_iff (server : EpollServer) (clientFd : Nat) (received : Received)
    (surroundings : Surroundings) :
    Determined received.bytes surroundings (server.handler clientFd surroundings) ↔
      Decided (receivedText received.bytes surroundings) (server.handler clientFd surroundings) :=
  determined_iff_decided received.bytes surroundings

/-- A method that no line repeats is answered by what the array held. -/
theorem reply_determined_fails :
    ¬Determined (receivedLines ["GET_PARAMETER rtsp://h/ RTSP/1.0", "CSeq: 1"]).bytes
        emptySurroundings (EpollServer.start.handler 5 emptySurroundings) := by
  intro determined
  apply method_of_determined _ _ determined
  decide +kernel

end FzServer.Parsing
