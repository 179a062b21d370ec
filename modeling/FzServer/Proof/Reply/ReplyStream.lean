import FzServer.Proof.Reply.Announcement
import FzServer.Proof.Session.ArrayBounds

/-
This file splits the replies of one connection into the responses to its requests.
-/

namespace FzServer.Replies

open Foundation Sessions Rtsp Server Parsing

/-- These are the lines that an event delivers. -/
def eventLines : Event → List (List UInt8)
  | .readable _ received surroundings => receivedText received.bytes surroundings
  | _ => []

/-- The history of a connection is the numbers of its requests and the bytes of its replies. -/
structure Streams where
  asked : Nat → List (Option Int)
  sent : Nat → List UInt8

def Streams.start : Streams := ⟨fun _ => [], fun _ => []⟩

/-- A new connection starts with nothing. -/
def streams (history : Streams) (now : ServerStage) : Streams :=
  match requestOf now.before now.event with
  | some request =>
      { asked := Function.update history.asked request.clientFd
          (history.asked request.clientFd ++ [requestNumber (eventLines now.event)])
        sent := Function.update history.sent request.clientFd
          (history.sent request.clientFd ++ now.output.reply.elim [] Reply.text) }
  | none =>
      match now.event with
      | .accept clientFd =>
          if now.before.isOpen clientFd then history
          else ⟨Function.update history.asked clientFd [], Function.update history.sent clientFd []⟩
      | _ => history

/-- The bytes are one response for each request, in order, and nothing else. -/
def SelfDelimited (sent : List UInt8) (asked : List (Option Int)) : Prop :=
  ∃ messages, messageCodec.decodeAll sent = some messages ∧
    (∀ message ∈ messages, ascii "RTSP/1.0 " <+: statusLine message) ∧
    messages.map responseNumber = asked

/-- This holds of every connection after the stage. -/
def SelfDelimiting (history : Streams) (now : ServerStage) : Prop :=
  ∀ clientFd, SelfDelimited ((streams history now).sent clientFd)
    ((streams history now).asked clientFd)

/-- The request has a number that an `int` holds, and its branch writes one framed response. -/
structure Answerable (lines : List (List UInt8)) (server : EpollServer) (request : Request) :
    Prop where
  number : ∃ number, requestNumber lines = some number ∧ storeInt number = number
  method : dispatched lines ≠ none
  describe : dispatched lines = some .DESCRIBE → lastRead urlOn lines ≠ none
  setup : dispatched lines = some .SETUP →
    (requestNumber lines = some 3 ∨ requestNumber lines = some 4) ∧
      (request.second = true → server.sessionManager.getSession
        (server.clientFdManager.sessionId request.clientFd) ≠ none)
  play : dispatched lines = some .PLAY → server.sessionManager.getSession request.named ≠ none
  /-- The C library writes the date on one line. -/
  pause : dispatched lines = some .PAUSE → 0x0A ∉ request.surroundings.gmtTime

/-- The request of the stage also fits the arrays of the handler. -/
def EachAnswerable {History : Type} (_ : History) (now : ServerStage) : Prop :=
  EachFits now ∧ ∀ request ∈ requestOf now.before now.event,
    Answerable (eventLines now.event) now.before request

/-- The history is the encoding of valid responses with the numbers of the requests. -/
def Carried (history : Streams) : Prop :=
  ∀ clientFd, ∃ messages, (∀ message ∈ messages, messageCodec.Valid message ∧
      ascii "RTSP/1.0 " <+: statusLine message) ∧
    messageCodec.encodeAll messages = history.sent clientFd ∧
    messages.map responseNumber = history.asked clientFd

theorem Carried.start : Carried Streams.start := fun _ => ⟨[], by simp, rfl, rfl⟩

/-- A carried history is self-delimited. -/
theorem Carried.selfDelimited {history : Streams} (carried : Carried history) (clientFd : Nat) :
    SelfDelimited (history.sent clientFd) (history.asked clientFd) := by
  obtain ⟨messages, good, sent, asked⟩ := carried clientFd
  refine ⟨messages, ?_, fun message member => (good message member).2, asked⟩
  rw [← sent]
  exact messageCodec.decodeAll_encodeAll messages fun message member => (good message member).1

section Stage

variable {server : EpollServer} {event : Event} {request : Request}

/-- The handler reads its request off the lines of the event. -/
theorem requestOf_read (found : requestOf server event = some request) :
    LinesRead (eventLines event)
      (Scanned.init request.surroundings (server.handler request.clientFd request.surroundings))
      request.scanned := by
  obtain ⟨clientFd, received, surroundings, rfl, _, _, rfl⟩ := requestOf_readable found
  have read := parseRequest_read received.bytes surroundings (server.handler clientFd surroundings)
  have same : Request.clientFd ⟨surroundings, parseRequest received.bytes surroundings
      (server.handler clientFd surroundings)⟩ = clientFd := by
    rw [Request.clientFd, read.handler]
    rfl
  rw [same]
  exact read

/-- What the handler builds is what it sends. -/
theorem reply_of_built (found : requestOf server event = some request) {built : Built}
    (result : request.built = some built) :
    (epollServer.stage server event).output.reply =
      some ⟨built.res, replyText built request.scanned.CSeq⟩ := by
  rw [stage_request found, serve_built request result]
  exact (afterReply_finished _ _).reply

/-- A token breaks no line. -/
theorem scanToken_solid {text token rest : List UInt8} (read : scanToken text = some (token, rest)) :
    Solid token := by
  rw [scanToken] at read
  split_ifs at read
  cases read
  intro character member
  have inside := List.mem_takeWhile_imp member
  rwa [Bool.not_eq_true'] at inside

theorem urlOn_solid {lines : List (List UInt8)} {url : List UInt8}
    (read : lastRead urlOn lines = some url) : Solid url := by
  obtain ⟨line, _, given⟩ := lastWrite_mem read
  rw [urlOn] at given
  split_ifs at given
  obtain ⟨first, _, second⟩ := Option.bind_eq_some_iff.mp given
  obtain ⟨found, token, rfl⟩ := Option.map_eq_some_iff.mp second
  exact scanToken_solid token

/-- The handler keeps the number and the method of an answerable request. -/
theorem answerable_read (found : requestOf server event = some request)
    (answerable : Answerable (eventLines event) server request) :
    requestNumber (eventLines event) = some request.scanned.CSeq ∧
      ∃ kind, dispatched (eventLines event) = some kind ∧ request.method = some kind := by
  obtain ⟨number, written, fits⟩ := answerable.number
  have read := requestOf_read found
  have stored : request.scanned.CSeq = number := by
    rw [read.CSeq, lastRead_numberOn, written, Option.map_some, Option.getD_some, fits]
  obtain ⟨kind, branch⟩ := Option.ne_none_iff_exists'.mp answerable.method
  refine ⟨stored ▸ written, kind, branch, ?_⟩
  obtain ⟨text, known, supported⟩ := Option.bind_eq_some_iff.mp branch
  rw [Request.method, read.method, known, Option.getD_some, supported]

/-- Each builder but one writes one response. -/
theorem built_responds (solid : SolidNames server.view)
    (found : requestOf server event = some request)
    (answerable : Answerable (eventLines event) server request) {kind : Method}
    (branch : dispatched (eventLines event) = some kind) (method : request.method = some kind)
    (other : kind ≠ .SETUP) :
    ∃ sBuf handler message, request.built = some ⟨0, sBuf, handler⟩ ∧
      Responds sBuf request.scanned.CSeq message := by
  have text : Method.ofText request.scanned.method = some kind := method
  cases kind with
  | SETUP => exact absurd rfl other
  | OPTIONS =>
      refine ⟨_, request.scanned.handler, _, ?_, OPTIONS_responds request.scanned.CSeq⟩
      rw [Request.built, build_string_tcp, text]
  | TEARDOWN =>
      refine ⟨_, request.scanned.handler, _, ?_, TEARDOWN_responds request.scanned.CSeq⟩
      rw [Request.built, build_string_tcp, text]
  | PAUSE =>
      refine ⟨_, request.scanned.handler, _, ?_,
        PAUSE_responds request.scanned.CSeq (answerable.pause branch)⟩
      rw [Request.built, build_string_tcp, text]
  | DESCRIBE =>
      obtain ⟨url, given⟩ := Option.ne_none_iff_exists'.mp (answerable.describe branch)
      refine ⟨_, request.scanned.handler, _, ?_,
        DESCRIBE_responds _ request.surroundings.time (cstring request.surroundings.localIp)
          (urlOn_solid given).unbroken.1⟩
      rw [Request.built, build_string_tcp, text, (requestOf_read found).url, given,
        Option.getD_some]
  | PLAY =>
      obtain ⟨ss, stands⟩ := Option.ne_none_iff_exists'.mp (answerable.play branch)
      have name : Solid request.named := by
        apply solid.states
        intro missing
        exact absurd ((stateOf_eq_none _ _).mp missing) (by simp [stands])
      have held : server.sessionManager.getSession request.scanned.handler.session_ = some ss :=
        stands
      have built := built_play request method
      rw [buildPlay, requestOf_sessions found, held] at built
      exact ⟨_, _, _, built, PLAY_responds request.scanned.CSeq name.unbroken.1⟩

/-- A SETUP request with an announced number gets one response. -/
theorem setup_responds (solid : SolidNames server.view)
    (found : requestOf server event = some request) (method : request.method = some .SETUP)
    (announced : request.scanned.CSeq = 3 ∨ request.scanned.CSeq = 4)
    (joins : request.second = true → server.sessionManager.getSession
      (server.clientFdManager.sessionId request.clientFd) ≠ none) :
    ∃ reply message, (epollServer.stage server event).output.reply = some reply ∧
      Responds reply.text request.scanned.CSeq message := by
  have responds {session : List UInt8} (name : Solid session) :
      ∃ message, Responds (request.setupReply session) request.scanned.CSeq message := by
    obtain ⟨three, four⟩ := SETUP_responds (cstring request.surroundings.sBuf) name.unbroken.1
    rw [Request.setupReply]
    rcases announced with first | second
    · rw [first]
      exact ⟨_, three⟩
    · rw [second]
      exact ⟨_, four⟩
  cases track : request.second with
  | false =>
      obtain ⟨message, response⟩ := responds (generateSessionId_solid _)
      exact ⟨_, message, creates_reply found ⟨method, track⟩, response⟩
  | true =>
      obtain ⟨sess, joined⟩ := Option.ne_none_iff_exists'.mp (joins track)
      obtain ⟨message, response⟩ := responds (solid.ids request.clientFd)
      obtain ⟨sent, _⟩ := attaches_session found ⟨method, track⟩ joined
      exact ⟨_, message, sent, response⟩

/-- An answerable request gets one response with its number. -/
theorem answerable_responds (solid : SolidNames server.view)
    (found : requestOf server event = some request)
    (answerable : Answerable (eventLines event) server request) :
    ∃ reply number message, (epollServer.stage server event).output.reply = some reply ∧
      requestNumber (eventLines event) = some number ∧ Responds reply.text number message := by
  obtain ⟨written, kind, branch, method⟩ := answerable_read found answerable
  by_cases setup : kind = .SETUP
  · subst setup
    obtain ⟨announced, joins⟩ := answerable.setup branch
    rw [written, Option.some.injEq, Option.some.injEq] at announced
    obtain ⟨reply, message, sent, responds⟩ := setup_responds solid found method announced joins
    exact ⟨reply, _, message, sent, written, responds⟩
  · obtain ⟨sBuf, handler, message, built, responds⟩ :=
      built_responds solid found answerable branch method setup
    exact ⟨_, _, message, reply_of_built found built, written, responds⟩

/-- An answerable stage keeps the history an encoding. -/
theorem carried_stage {history : Streams} (carried : Carried history)
    (solid : SolidNames server.view)
    (answerable : EachAnswerable history (epollServer.stage server event)) :
    Carried (streams history (epollServer.stage server event)) := by
  intro clientFd
  cases found : requestOf server event with
  | none =>
      have silent : streams history (epollServer.stage server event) = history ∨
          ∃ opened, streams history (epollServer.stage server event) =
            ⟨Function.update history.asked opened [], Function.update history.sent opened []⟩ := by
        simp only [streams, Machine.stage_before, Machine.stage_event, found]
        cases event with
        | accept opened =>
            by_cases already : server.isOpen opened = true
            · exact Or.inl (if_pos already)
            · exact Or.inr ⟨opened, if_neg already⟩
        | epollError opened => exact Or.inl rfl
        | readable opened received surroundings => exact Or.inl rfl
      rcases silent with same | ⟨opened, fresh⟩
      · rw [same]
        exact carried clientFd
      · rw [fresh]
        by_cases same : clientFd = opened
        · exact ⟨[], by simp, by simp [same, FrameCodec.encodeAll], by simp [same]⟩
        · simp only [Function.update_of_ne same]
          exact carried clientFd
  | some request =>
      obtain ⟨reply, number, message, sent, written, responds⟩ :=
        answerable_responds solid found (answerable.2 request found)
      have next : streams history (epollServer.stage server event) =
          { asked := Function.update history.asked request.clientFd
              (history.asked request.clientFd ++ [some number])
            sent := Function.update history.sent request.clientFd
              (history.sent request.clientFd ++ reply.text) } := by
        simp only [streams, Machine.stage_before, Machine.stage_event, found, sent, written,
          Option.elim_some]
      rw [next]
      by_cases same : clientFd = request.clientFd
      · obtain ⟨messages, good, bytes, numbers⟩ := carried request.clientFd
        refine ⟨messages ++ [message], ?_, ?_, ?_⟩
        · intro other member
          rcases List.mem_append.mp member with old | new
          · exact good other old
          · rw [List.mem_singleton.mp new]
            exact ⟨responds.valid, responds.protocol⟩
        · simp only [same, Function.update_self]
          rw [← bytes, ← responds.encodes]
          simp [FrameCodec.encodeAll]
        · simp only [same, Function.update_self]
          rw [List.map_append, numbers, List.map_singleton, responds.number]
      · simp only [Function.update_of_ne same]
        exact carried clientFd

end Stage

/-- In every run of answerable requests no array overflows, and the reply stream of every connection
splits. -/
theorem selfDelimiting_run (events : List Event)
    (answerable : epollServer.Always streams Streams.start EpollServer.start events
      EachAnswerable) :
    epollServer.Always streams Streams.start EpollServer.start events
      (fun history now => InArrays now ∧ SelfDelimiting history now) :=
  Machine.always_of_invariant
    (fun history server => Carried history ∧ SolidNames server.view)
    (fun _ _ _ inside allowed =>
      ⟨stage_inArrays allowed.1,
        fun clientFd => (carried_stage inside.1 inside.2 allowed).selfDelimited clientFd⟩)
    (fun _ _ _ inside allowed _ =>
      ⟨carried_stage inside.1 inside.2 allowed, stage_solidNames inside.2⟩)
    events _ _ ⟨Carried.start, SolidNames.start⟩ answerable

instance (lines : List (List UInt8)) (server : EpollServer) (request : Request) :
    Decidable (Answerable lines server request) :=
  decidable_of_iff
    (((requestNumber lines).any fun number => storeInt number = number) = true ∧
      dispatched lines ≠ none ∧
      (dispatched lines = some .DESCRIBE → lastRead urlOn lines ≠ none) ∧
      (dispatched lines = some .SETUP →
        (requestNumber lines = some 3 ∨ requestNumber lines = some 4) ∧
          (request.second = true → (server.sessionManager.getSession
            (server.clientFdManager.sessionId request.clientFd)).isSome = true)) ∧
      (dispatched lines = some .PLAY →
        (server.sessionManager.getSession request.named).isSome = true) ∧
      (dispatched lines = some .PAUSE → 0x0A ∉ request.surroundings.gmtTime))
    (by
      simp only [Option.any_eq_true, decide_eq_true_eq, Option.isSome_iff_ne_none]
      constructor
      · rintro ⟨number, method, describe, setup, play, pause⟩
        exact ⟨number, method, describe, setup, play, pause⟩
      · rintro ⟨number, method, describe, setup, play, pause⟩
        exact ⟨number, method, describe, setup, play, pause⟩)

instance {History : Type} (history : History) (now : ServerStage) :
    Decidable (EachAnswerable history now) :=
  inferInstanceAs (Decidable (_ ∧ ∀ request ∈ requestOf now.before now.event, _))

/-- One client asks with every kind of request but PLAY. -/
theorem selfDelimiting_run_setup :
    epollServer.Always streams Streams.start EpollServer.start
      [.accept 5, sampleRequest 5 ["OPTIONS rtsp://h/ RTSP/1.0", "CSeq: 1"],
        sampleRequest 5 ["DESCRIBE rtsp://h/ RTSP/1.0", "CSeq: 2"],
        sampleRequest 5 ["SETUP rtsp://h/track0 RTSP/1.0", "CSeq: 3"],
        sampleRequest 5 ["TEARDOWN rtsp://h/ RTSP/1.0", "CSeq: 7"]]
      (fun history now => InArrays now ∧ SelfDelimiting history now) :=
  selfDelimiting_run _ (by decide +kernel)

/-- The body of the refusal has no announced length. -/
theorem selfDelimiting_fails :
    ¬epollServer.Always streams Streams.start EpollServer.start
      [.accept 5, sampleRequest 5 ["ANNOUNCE rtsp://h/PLAY RTSP/1.0", "CSeq: 1"]]
      SelfDelimiting := by
  intro always
  have second := always _ (List.mem_cons_of_mem _ List.mem_cons_self)
  obtain ⟨messages, decoded, _⟩ := second 5
  exact absurd (Option.isSome_iff_exists.mpr ⟨messages, decoded⟩) (by decide +kernel)

end FzServer.Replies
