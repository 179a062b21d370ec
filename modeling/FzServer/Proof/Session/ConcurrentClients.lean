import FzServer.Proof.Session.SolidNames

/-
This file keeps the sessions of concurrent clients apart while they set up their tracks.
-/

namespace FzServer.Server

open Foundation Sessions Rtsp

/-- A client reads the first Session line of a reply up to its line break. -/
def sessionHeader (reply : List UInt8) : Option (List UInt8) :=
  ((strtok 0x0A reply).findSome? (scanLiteral (ascii "Session: "))).map
    (List.takeWhile (· ≠ 0x0D))

/-- No byte of the text breaks a line. -/
def Unbroken (text : List UInt8) : Prop := 0x0A ∉ text ∧ 0x0D ∉ text

theorem generateSessionId_unbroken (randomBytes : Vector UInt8 16) :
    Unbroken (generateSessionId randomBytes) := (generateSessionId_solid randomBytes).unbroken

/-- The reply to SETUP has one of its two forms. -/
def Announced (request : Request) : Prop := request.scanned.CSeq = 3 ∨ request.scanned.CSeq = 4

/-- A reader finds the session behind lines that name none. -/
theorem sessionHeader_append {text : List UInt8} (front : List UInt8) {session : List UInt8}
    (lines : text = front ++ [0x0A])
    (absent : (strtok 0x0A front).findSome? (scanLiteral (ascii "Session: ")) = none)
    (unbroken : Unbroken session) :
    sessionHeader (text ++ ascii "Session: " ++ session ++ crlf ++ crlf) = some session := by
  have line : 0x0A ∉ ascii "Session: " ++ session ++ [0x0D] := by
    rw [List.mem_append, List.mem_append]
    rintro ((member | member) | member)
    · exact absurd member (by decide)
    · exact unbroken.1 member
    · exact absurd member (by decide)
  have shape : text ++ ascii "Session: " ++ session ++ crlf ++ crlf =
      front ++ 0x0A :: ((ascii "Session: " ++ session ++ [0x0D]) ++ 0x0A :: crlf) := by
    rw [lines]
    simp [crlf]
  have found : scanLiteral (ascii "Session: ") (ascii "Session: " ++ session ++ [0x0D]) =
      some (session ++ [0x0D]) := by
    rw [scanLiteral, List.append_assoc, if_pos (List.prefix_append _ _), List.drop_left]
  have value : (session ++ [0x0D]).takeWhile (· ≠ 0x0D) = session := by
    rw [List.takeWhile_append_of_pos]
    · simp
    · intro character member
      rw [decide_eq_true_iff]
      exact fun same => unbroken.2 (same ▸ member)
  rw [sessionHeader, shape, strtok_append, List.findSome?_append, absent, strtok_append,
    strtok_single 0x0A _ (by simp [ascii]) line]
  simp only [Option.none_or, List.cons_append, List.nil_append, List.findSome?_cons, found,
    Option.map_some, value]

/-- A client reads the session out of an announced reply. -/
theorem sessionHeader_setupReply {request : Request} (announced : Announced request)
    {session : List UInt8} (unbroken : Unbroken session) :
    sessionHeader (request.setupReply session) = some session := by
  rcases announced with three | four
  · rw [Request.setupReply, handleCmd_SETUP_TCP, if_pos three, three]
    exact sessionHeader_append (ascii "RTSP/1.0 200 OK \r\nCSeq: 3\r\n" ++
      ascii "Transport: RTP/AVP/TCP;unicast;interleaved=0-1\r") (by decide +kernel)
      (by decide +kernel) unbroken
  · rw [Request.setupReply, handleCmd_SETUP_TCP, if_neg (by rw [four]; decide), if_pos four, four]
    exact sessionHeader_append (ascii "RTSP/1.0 200 OK \r\nCSeq: 4\r\n" ++
      ascii "Transport: RTP/AVP/TCP;unicast;interleaved=2-3\r") (by decide +kernel)
      (by decide +kernel) unbroken

/-- What follows the reply can only add tracks to the session that it printed. -/
structure Printed (before after : SessionManager) (session : List UInt8) : Prop where
  others : ∀ other, other ≠ session → after.getSession other = before.getSession other
  same : ∀ sess, before.getSession session = some sess →
    ∃ printed, after.getSession session = some printed ∧ printed.clientFd_ = sess.clientFd_ ∧
      ∀ track, (sess.info track).isSome = true → (printed.info track).isSome = true

theorem Printed.refl (manager : SessionManager) (session : List UInt8) :
    Printed manager manager session :=
  ⟨fun _ _ => rfl, fun sess found => ⟨sess, found, rfl, fun _ has => has⟩⟩

theorem afterReply_printed (reply : Reply) (handler : RtspHandler) :
    Printed handler.sessionManager_ (afterReply reply handler).1.sessionManager_
      handler.session_ := by
  by_cases unnamed : handler.session_ = []
  · rw [afterReply, if_pos unnamed]
    exact Printed.refl _ _
  · cases found : handler.sessionManager_.getSession handler.session_ with
    | none =>
        rw [afterReply_null unnamed found]
        exact Printed.refl _ _
    | some ss =>
        by_cases playing : ss.state_ = .PLAYING
        · rw [afterReply_playing unnamed found playing]
          constructor
          · exact fun other different => getSession_addSession_of_ne _ _ different
          · intro sess same
            obtain rfl := Option.some.inj (found.symm.trans same)
            exact ⟨ss.print, getSession_addSession _ _ _, rfl, fun _ _ => rfl⟩
        · rw [afterReply_quiet unnamed found playing]
          exact Printed.refl _ _

section Stage

variable {server : EpollServer} {event : Event} {request : Request}

theorem stage_printed (found : requestOf server event = some request) {built : Built}
    (result : request.built = some built) :
    Printed built.handler.sessionManager_
      (epollServer.stage server event).after.sessionManager built.handler.session_ := by
  rw [stage_request found, serve_built request result]
  exact afterReply_printed _ _

/-- The new session belongs to the descriptor and has its video track. -/
theorem creates_session (found : requestOf server event = some request)
    (creates : request.creates) :
    (∃ sess, (epollServer.stage server event).after.sessionManager.getSession request.created =
        some sess ∧ sess.clientFd_ = request.clientFd ∧ (sess.info .video).isSome = true) ∧
      ∀ other, other ≠ request.created →
        (epollServer.stage server event).after.sessionManager.getSession other =
          server.sessionManager.getSession other := by
  obtain ⟨others, same⟩ := stage_printed found (built_creates request creates)
  constructor
  · obtain ⟨printed, stored, owner, tracks⟩ := same _ (getSession_addSession _ _ _)
    exact ⟨printed, stored, owner, tracks .video (by simp [Session.setInfo])⟩
  · intro other different
    rw [others other different]
    apply (getSession_addSession_of_ne _ _ different).trans
    rw [requestOf_sessions found]

/-- The session that the second track joins keeps its descriptor and gets its audio track. -/
theorem attaches_session (found : requestOf server event = some request)
    (attaches : request.attaches) {sess : Session}
    (joined : server.sessionManager.getSession
      (server.clientFdManager.sessionId request.clientFd) = some sess) :
    (epollServer.stage server event).output.reply = some ⟨0, request.setupReply
        (server.clientFdManager.sessionId request.clientFd)⟩ ∧
      (∃ after, (epollServer.stage server event).after.sessionManager.getSession
          (server.clientFdManager.sessionId request.clientFd) = some after ∧
        after.clientFd_ = sess.clientFd_ ∧
        ((sess.info .video).isSome = true → (after.info .video).isSome = true) ∧
        (after.info .audio).isSome = true) ∧
      ∀ other, other ≠ server.clientFdManager.sessionId request.clientFd →
        (epollServer.stage server event).after.sessionManager.getSession other =
          server.sessionManager.getSession other := by
  have result := built_attaches found attaches
  rw [joined] at result
  obtain ⟨others, same⟩ := stage_printed found result
  refine ⟨?_, ?_, ?_⟩
  · rw [stage_request found, serve_built request result]
    exact (afterReply_finished _ _).reply
  · obtain ⟨printed, stored, owner, tracks⟩ := same _ (getSession_addSession _ _ _)
    refine ⟨printed, stored, owner, fun video => tracks .video ?_,
      tracks .audio (by simp [Session.setInfo])⟩
    simpa [Session.setInfo] using video
  · intro other different
    rw [others other different]
    exact getSession_addSession_of_ne _ _ different

/-- Two tables agree on a descriptor. -/
def SameEntry (before after : ClientFdManager) (clientFd : Nat) : Prop :=
  after.avFlags_ clientFd = before.avFlags_ clientFd ∧
    after.avSessionIds_ clientFd = before.avSessionIds_ clientFd

theorem stage_clientFds (found : requestOf server event = some request) {built : Built}
    (result : request.built = some built) :
    (epollServer.stage server event).after.clientFdManager = built.handler.clientFdManager_ := by
  rw [stage_request found, serve_built request result]
  exact (afterReply_finished _ _).clientFdManager

/-- The parse loop changes no entry of another descriptor. -/
theorem scanned_entry (found : requestOf server event = some request) {other : Nat}
    (different : other ≠ request.clientFd) :
    SameEntry server.clientFdManager request.scanned.handler.clientFdManager_ other := by
  obtain ⟨_, _, frame⟩ := requestOf_frame found
  exact ⟨frame.flags other different, by rw [frame.sessionIds]; rfl⟩

/-- A SETUP request changes no entry of another descriptor. -/
theorem setup_entry (found : requestOf server event = some request)
    (setup : request.method = some .SETUP) {other : Nat} (different : other ≠ request.clientFd) :
    SameEntry server.clientFdManager (epollServer.stage server event).after.clientFdManager
      other := by
  have scanned := scanned_entry found different
  cases track : request.second with
  | false =>
      rw [stage_clientFds found (built_creates request ⟨setup, track⟩)]
      exact ⟨(Function.update_of_ne different _ _).trans scanned.1,
        (Function.update_of_ne different _ _).trans scanned.2⟩
  | true =>
      have result := built_attaches found ⟨setup, track⟩
      cases joined : server.sessionManager.getSession
          (server.clientFdManager.sessionId request.clientFd) with
      | none =>
          rw [joined] at result
          rw [stage_request found, serve_crash request result]
          exact scanned
      | some sess =>
          rw [joined] at result
          rw [stage_clientFds found result]
          exact ⟨(Function.update_of_ne different _ _).trans scanned.1,
            (Function.update_of_ne different _ _).trans scanned.2⟩

end Stage

/-- The history of the clients is what they read and what the server generated. -/
structure Clients where
  /-- The open connection on this descriptor made a SETUP request for its first track. -/
  made : Nat → Bool
  /-- This identifier stood in the latest reply to such a request. -/
  latest : Nat → Option (List UInt8)
  generated : List (List UInt8)

def Clients.start : Clients := ⟨fun _ => false, fun _ => none, []⟩

def clients : Clients → ServerStage → Clients :=
  follow
    (fun history request output =>
      if request.creates then
        { made := Function.update history.made request.clientFd true
          latest := Function.update history.latest request.clientFd
            (output.reply.bind fun reply => sessionHeader reply.text)
          generated := request.created :: history.generated }
      else history)
    (fun history clientFd =>
      { history with
        made := Function.update history.made clientFd false
        latest := Function.update history.latest clientFd none })

/-- Only SETUP requests arrive, no identifier is generated twice, and a second track comes after
a first one. -/
structure SetupTraffic (history : Clients) (_ : SessionView) (request : Request) : Prop where
  setup : request.method = some .SETUP
  fresh : request.creates → request.created ∉ history.generated
  ordered : request.attaches → history.made request.clientFd = true

/-- The reply carries the session of its client, which holds both tracks. -/
def CarriesSession (history : Clients) (now : ServerStage) (request : Request) : Prop :=
  ∃ reply session sess, now.output.reply = some reply ∧
    history.latest request.clientFd = some session ∧ sessionHeader reply.text = some session ∧
    now.after.sessionManager.getSession session = some sess ∧
    sess.clientFd_ = request.clientFd ∧
    (sess.info .video).isSome = true ∧ (sess.info .audio).isSome = true

/-- A second track joins the session of its client, and the other clients see no change. -/
structure KeepsApart (history : Clients) (now : ServerStage) : Prop where
  second : ∀ request, requestOf now.before now.event = some request → request.attaches →
    CarriesSession history now request
  others : ∀ request, requestOf now.before now.event = some request →
    ∀ other, other ≠ request.clientFd →
      SameEntry now.before.clientFdManager now.after.clientFdManager other ∧
        ∀ session, history.latest other = some session →
          now.after.sessionManager.getSession session =
            now.before.sessionManager.getSession session

/-- Each client with a first track reads the session that the tables hold for it. -/
structure Apart (history : Clients) (server : EpollServer) : Prop where
  unbroken : ∀ session ∈ history.generated, Unbroken session
  made : ∀ clientFd, history.made clientFd = true → (history.latest clientFd).isSome = true
  latest : ∀ clientFd session, history.latest clientFd = some session →
    session ∈ history.generated ∧ server.clientFdManager.sessionId clientFd = session ∧
      ∃ sess, server.sessionManager.getSession session = some sess ∧
        sess.clientFd_ = clientFd ∧ (sess.info .video).isSome = true

theorem Apart.start : Apart Clients.start EpollServer.start where
  unbroken _ member := absurd member (by simp [Clients.start])
  made _ made := absurd made (by simp [Clients.start])
  latest _ _ latest := absurd latest (by simp [Clients.start])

section Run

variable {history : Clients} {server : EpollServer} {event : Event} {request : Request}

/-- An event without a request can only forget a client. -/
theorem Apart.silent (apart : Apart history server) (none_found : requestOf server event = none) :
    Apart (clients history (epollServer.stage server event))
      (epollServer.stage server event).after := by
  obtain ⟨sessions, clientFds, _⟩ := stage_silent none_found
  have kept : Apart history (epollServer.stage server event).after := by
    constructor
    · exact apart.unbroken
    · exact apart.made
    · rw [sessions, clientFds]
      exact apart.latest
  rcases follow_silent none_found with same | ⟨clientFd, forgets⟩
  · rw [clients, same]
    exact kept
  · rw [clients, forgets]
    constructor
    · exact kept.unbroken
    · intro other made
      by_cases same : other = clientFd
      · simp [same] at made
      · simp only [Function.update_of_ne same] at made ⊢
        exact kept.made other made
    · intro other session latest
      by_cases same : other = clientFd
      · simp [same] at latest
      · simp only [Function.update_of_ne same] at latest
        exact kept.latest other session latest

/-- The other clients keep what they read, as long as the stage keeps their sessions. -/
theorem Apart.others (apart : Apart history server) (found : requestOf server event = some request)
    (setup : request.method = some .SETUP) {other : Nat} {session : List UInt8}
    (different : other ≠ request.clientFd) (latest : history.latest other = some session)
    (kept : (epollServer.stage server event).after.sessionManager.getSession session =
      server.sessionManager.getSession session) :
    session ∈ history.generated ∧
      (epollServer.stage server event).after.clientFdManager.sessionId other = session ∧
      ∃ sess, (epollServer.stage server event).after.sessionManager.getSession session =
        some sess ∧ sess.clientFd_ = other ∧ (sess.info .video).isSome = true := by
  obtain ⟨member, named, stored⟩ := apart.latest other session latest
  rw [ClientFdManager.sessionId, (setup_entry found setup different).2, kept]
  exact ⟨member, named, stored⟩

/-- A first track changes only the new session. -/
theorem apart_creates (apart : Apart history server) (found : requestOf server event = some request)
    (creates : request.creates) (fresh : request.created ∉ history.generated)
    (announced : Announced request) :
    KeepsApart history (epollServer.stage server event) ∧
      Apart (clients history (epollServer.stage server event))
        (epollServer.stage server event).after := by
  obtain ⟨⟨sess, stored, owner, video⟩, sessions⟩ := creates_session found creates
  have kept (other : Nat) (session : List UInt8) (latest : history.latest other = some session) :
      (epollServer.stage server event).after.sessionManager.getSession session =
        server.sessionManager.getSession session := by
    apply sessions session
    intro same
    apply fresh
    rw [← same]
    exact (apart.latest other session latest).1
  constructor
  · constructor
    · intro other foundOther attaches
      obtain rfl := Option.some.inj (found.symm.trans foundOther)
      exact absurd creates (request.not_creates_of_attaches attaches)
    · intro other foundOther clientFd different
      obtain rfl := Option.some.inj (found.symm.trans foundOther)
      exact ⟨setup_entry found creates.1 different, kept clientFd⟩
  · have read : (epollServer.stage server event).output.reply.bind
        (fun reply => sessionHeader reply.text) = some request.created := by
      rw [creates_reply found creates]
      exact sessionHeader_setupReply announced (generateSessionId_unbroken _)
    rw [clients, follow_request found, if_pos creates, read]
    constructor
    · intro session member
      rcases List.mem_cons.mp member with same | old
      · rw [same]
        exact generateSessionId_unbroken _
      · exact apart.unbroken session old
    · intro clientFd made
      by_cases same : clientFd = request.clientFd
      · simp [same]
      · simp only [Function.update_of_ne same] at made ⊢
        exact apart.made clientFd made
    · intro clientFd session latest
      by_cases same : clientFd = request.clientFd
      · simp only [same, Function.update_self, Option.some.injEq] at latest
        rw [same, ← latest, stage_clientFds found (built_creates request creates)]
        exact ⟨List.mem_cons_self, ClientFdManager.sessionId_setSessionIds _ _ _, sess, stored,
          owner, video⟩
      · simp only [Function.update_of_ne same] at latest
        obtain ⟨member, rest⟩ := apart.others found creates.1 same latest
          (kept clientFd session latest)
        exact ⟨List.mem_cons_of_mem _ member, rest⟩

/-- A second track changes only the session of its client. -/
theorem apart_attaches (apart : Apart history server)
    (found : requestOf server event = some request) (attaches : request.attaches)
    (made : history.made request.clientFd = true) (announced : Announced request) :
    KeepsApart history (epollServer.stage server event) ∧
      Apart (clients history (epollServer.stage server event))
        (epollServer.stage server event).after := by
  obtain ⟨session, latest⟩ := Option.isSome_iff_exists.mp (apart.made request.clientFd made)
  obtain ⟨member, named, sess, stored, owner, video⟩ := apart.latest request.clientFd session latest
  obtain ⟨sent, ⟨after, storedAfter, ownerAfter, videoAfter, audio⟩, sessions⟩ :=
    attaches_session found attaches (by rw [named]; exact stored)
  rw [named] at sent storedAfter sessions
  -- The sessions of two descriptors differ, because each knows its descriptor.
  have kept (other : Nat) (different : other ≠ request.clientFd) (theirs : List UInt8)
      (latestOther : history.latest other = some theirs) :
      (epollServer.stage server event).after.sessionManager.getSession theirs =
        server.sessionManager.getSession theirs := by
    obtain ⟨_, _, sessOther, storedOther, ownerOther, _⟩ := apart.latest other theirs latestOther
    apply sessions theirs
    intro same
    apply different
    rw [same, stored, Option.some.injEq] at storedOther
    rw [← ownerOther, ← storedOther, owner]
  constructor
  · constructor
    · intro other foundOther _
      obtain rfl := Option.some.inj (found.symm.trans foundOther)
      exact ⟨_, session, after, sent, latest,
        sessionHeader_setupReply announced (apart.unbroken session member), storedAfter,
        ownerAfter.trans owner, videoAfter video, audio⟩
    · intro other foundOther clientFd different
      obtain rfl := Option.some.inj (found.symm.trans foundOther)
      exact ⟨setup_entry found attaches.1 different, kept clientFd different⟩
  · rw [clients, follow_request found, if_neg (request.not_creates_of_attaches attaches)]
    constructor
    · exact apart.unbroken
    · exact apart.made
    · intro clientFd theirs latestOther
      by_cases same : clientFd = request.clientFd
      · rw [same, latest, Option.some.injEq] at latestOther
        have result := built_attaches found attaches
        rw [named, stored] at result
        have still : ((request.scanned.handler.clientFdManager_.getAvFlags
            request.clientFd).2.getSessionIds request.clientFd).2.sessionId request.clientFd =
              session := by
          rw [sessionId_getSessionIds]
          change request.scanned.handler.clientFdManager_.sessionId request.clientFd = session
          rw [requestOf_sessionId found, named]
        rw [same, ← latestOther, stage_clientFds found result]
        exact ⟨member, still, after, storedAfter, ownerAfter.trans owner, videoAfter video⟩
      · exact apart.others found attaches.1 same latestOther
          (kept clientFd same theirs latestOther)

/-- Each stage of the traffic keeps the clients apart. -/
theorem keepsApart_step (apart : Apart history server)
    (traffic : EachRequest SetupTraffic history (epollServer.stage server event))
    (announced : EachRequest (fun _ _ request => Announced request) history
      (epollServer.stage server event)) :
    KeepsApart history (epollServer.stage server event) ∧
      Apart (clients history (epollServer.stage server event))
        (epollServer.stage server event).after := by
  cases found : requestOf server event with
  | none =>
      have nobody (request : Request) : requestOf server event ≠ some request := by
        rw [found]
        exact (Option.some_ne_none request).symm
      constructor
      · constructor
        · exact fun request impossible => absurd impossible (nobody request)
        · exact fun request impossible => absurd impossible (nobody request)
      · exact apart.silent found
  | some request =>
      have arrives := traffic request found
      cases track : request.second with
      | false =>
          have creates : request.creates := ⟨arrives.setup, track⟩
          exact apart_creates apart found creates (arrives.fresh creates) (announced request found)
      | true =>
          have attaches : request.attaches := ⟨arrives.setup, track⟩
          exact apart_attaches apart found attaches (arrives.ordered attaches)
            (announced request found)

end Run

/-- Concurrent clients do not mix in a run whose sequence numbers let the server announce the
session. -/
theorem keepsApart_run (events : List Event)
    (traffic : epollServer.Always clients Clients.start EpollServer.start events
      (EachRequest SetupTraffic))
    (announced : epollServer.Always clients Clients.start EpollServer.start events
      (EachRequest fun _ _ request => Announced request)) :
    epollServer.Always clients Clients.start EpollServer.start events KeepsApart := by
  have both : epollServer.Always clients Clients.start EpollServer.start events
      (fun history now => EachRequest SetupTraffic history now ∧
        EachRequest (fun _ _ request => Announced request) history now) :=
    fun entry member => ⟨traffic entry member, announced entry member⟩
  exact Machine.always_of_invariant Apart
    (fun _ _ _ apart allowed => (keepsApart_step apart allowed.1 allowed.2).1)
    (fun _ _ _ apart allowed _ => (keepsApart_step apart allowed.1 allowed.2).2)
    events _ _ Apart.start both

instance (history : Clients) (view : SessionView) (request : Request) :
    Decidable (SetupTraffic history view request) :=
  decidable_of_iff
    (request.method = some .SETUP ∧ (request.creates → request.created ∉ history.generated) ∧
      (request.attaches → history.made request.clientFd = true))
    ⟨fun all => ⟨all.1, all.2.1, all.2.2⟩, fun all => ⟨all.setup, all.fresh, all.ordered⟩⟩

instance (request : Request) : Decidable (Announced request) :=
  inferInstanceAs (Decidable (_ ∨ _))

/-- One client sets up both tracks while another one sets up its first. -/
def twoClients : List Event :=
  [.accept 5, .accept 6,
    sampleRequest 5 ["SETUP rtsp://h/track0 RTSP/1.0", "CSeq: 3"],
    .readable 6 (receivedLines ["SETUP rtsp://h/track0 RTSP/1.0", "CSeq: 3"])
      { emptySurroundings with randomBytes := Vector.replicate 16 1 },
    sampleRequest 5 ["SETUP rtsp://h/track1 RTSP/1.0", "CSeq: 4"]]

theorem keepsApart_run_twoClients :
    epollServer.Always clients Clients.start EpollServer.start twoClients KeepsApart :=
  keepsApart_run twoClients (by decide +kernel) (by decide +kernel)

/-- The reply to the second track carries no session when its sequence number is five. -/
theorem keepsApart_fails :
    epollServer.Always clients Clients.start EpollServer.start
        [.accept 5, sampleRequest 5 ["SETUP rtsp://h/track0 RTSP/1.0", "CSeq: 3"],
          sampleRequest 5 ["SETUP rtsp://h/track1 RTSP/1.0", "CSeq: 5"]]
        (EachRequest SetupTraffic) ∧
      ¬epollServer.Always clients Clients.start EpollServer.start
        [.accept 5, sampleRequest 5 ["SETUP rtsp://h/track0 RTSP/1.0", "CSeq: 3"],
          sampleRequest 5 ["SETUP rtsp://h/track1 RTSP/1.0", "CSeq: 5"]]
        KeepsApart := by
  refine ⟨by decide +kernel, fun always => ?_⟩
  have third := always _ (List.mem_cons_of_mem _ (List.mem_cons_of_mem _ List.mem_cons_self))
  obtain ⟨reply, session, _, sent, _, read, _⟩ := third.second _ rfl (by decide +kernel)
  have empty : some reply = some ⟨0, []⟩ := sent.symm.trans (by decide +kernel)
  rw [Option.some.inj empty] at read
  exact absurd read (by simp [sessionHeader])

end FzServer.Server
