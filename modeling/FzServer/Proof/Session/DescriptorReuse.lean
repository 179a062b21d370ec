import FzServer.Proof.Session.SessionView

/-
This file finds the runs in which no connection sees the session of an earlier one.
-/

namespace FzServer.Server

open Foundation Sessions Rtsp

/-- A connection is a descriptor number and a count of the earlier uses of that number. -/
structure Connections where
  generation : Nat → Nat
  /-- These identifiers were generated on the present connection of the descriptor. -/
  generated : Nat → List (List UInt8)
  /-- This connection created the session. -/
  owner : List UInt8 → Option (Nat × Nat)
  /-- Some connection on the descriptor created a session. -/
  used : Nat → Bool

/-- The server starts without connections. -/
def Connections.start : Connections := ⟨fun _ => 0, fun _ => [], fun _ => none, fun _ => false⟩

def Connections.create (history : Connections) (clientFd : Nat) (created : List UInt8) :
    Connections where
  generation := history.generation
  generated := Function.update history.generated clientFd
    (created :: history.generated clientFd)
  owner := Function.update history.owner created (some (clientFd, history.generation clientFd))
  used := Function.update history.used clientFd true

def Connections.connect (history : Connections) (clientFd : Nat) : Connections :=
  { history with
    generation := Function.update history.generation clientFd (history.generation clientFd + 1)
    generated := Function.update history.generated clientFd [] }

/-- The history follows the sessions that each connection creates. -/
def connections : Connections → ServerStage → Connections :=
  follow
    (fun history request _ =>
      if request.creates then history.create request.clientFd request.created else history)
    Connections.connect

/-- This is the session of an answered SETUP request. -/
def Request.session (request : Request) (before : SessionView) : List UInt8 :=
  if request.creates then request.created else before.ids request.clientFd

/-- The session was generated on this connection, and no earlier connection on the same
descriptor created it. -/
def Connections.Owns (history : Connections) (clientFd : Nat) (session : List UInt8) : Prop :=
  session ∈ history.generated clientFd ∧
    ∀ generation, history.owner session = some (clientFd, generation) →
      generation = history.generation clientFd

/-- Each SETUP reply carries a session of its own connection. -/
def IsolatesConnections (history : Connections) (now : ServerStage) : Prop :=
  ∀ request reply, requestOf now.before now.event = some request →
    request.method = some .SETUP → now.output.reply = some reply →
    reply.text = request.setupReply (request.session now.before.view) ∧
      (connections history now).Owns request.clientFd (request.session now.before.view)

/-- A request for the second track comes on a connection that created a session, or on a
descriptor that never had one. -/
def CreatesFirst (history : Connections) (_ : SessionView) (request : Request) : Prop :=
  request.attaches →
    history.generated request.clientFd ≠ [] ∨ history.used request.clientFd = false

/-- The descriptor table agrees with the history. -/
structure Agrees (history : Connections) (view : SessionView) : Prop where
  unnamed : view.states [] = none
  known : ∀ clientFd, history.used clientFd = true → view.states (view.ids clientFd) ≠ none
  unused : ∀ clientFd, history.used clientFd = false → view.ids clientFd = []
  used : ∀ clientFd, history.generated clientFd ≠ [] → history.used clientFd = true
  owns : ∀ clientFd, history.generated clientFd ≠ [] → history.Owns clientFd (view.ids clientFd)

theorem Agrees.start : Agrees Connections.start EpollServer.start.view where
  unnamed := rfl
  known _ used := absurd used (by simp [Connections.start])
  unused _ _ := rfl
  used _ generated := absurd rfl generated
  owns _ generated := absurd rfl generated

section Steps

variable {history : Connections} {view : SessionView}

/-- A connection owns what it creates. -/
theorem Connections.create_owns (history : Connections) (clientFd : Nat) (created : List UInt8) :
    (history.create clientFd created).Owns clientFd created := by
  constructor
  · simp [Connections.create]
  · intro generation owner
    simp only [Connections.create, Function.update_self, Option.some.injEq, Prod.mk.injEq] at owner
    exact owner.2.symm

/-- A session that another connection creates does not take the sessions of this one. -/
theorem Connections.Owns.create {clientFd other : Nat} {session created : List UInt8}
    (owns : history.Owns clientFd session) (different : clientFd ≠ other) :
    (history.create other created).Owns clientFd session := by
  obtain ⟨member, owner⟩ := owns
  constructor
  · simpa only [Connections.create, Function.update_of_ne different] using member
  · intro generation created_owner
    by_cases same : session = created
    · simp only [Connections.create, same, Function.update_self, Option.some.injEq,
        Prod.mk.injEq] at created_owner
      exact absurd created_owner.1.symm different
    · simp only [Connections.create, Function.update_of_ne same] at created_owner
      exact owner generation created_owner

/-- A new connection starts without a session of its own. -/
theorem Agrees.connect (agrees : Agrees history view) (clientFd : Nat) :
    Agrees (history.connect clientFd) view where
  unnamed := agrees.unnamed
  known := agrees.known
  unused := agrees.unused
  used other generated := by
    by_cases same : other = clientFd
    · simp [Connections.connect, same] at generated
    · simp only [Connections.connect, Function.update_of_ne same] at generated
      exact agrees.used other generated
  owns other generated := by
    by_cases same : other = clientFd
    · simp [Connections.connect, same] at generated
    · simp only [Connections.connect, Function.update_of_ne same] at generated
      obtain ⟨member, owner⟩ := agrees.owns other generated
      constructor
      · simp only [Connections.connect, Function.update_of_ne same]
        exact member
      · intro generation created_owner
        simp only [Connections.connect, Function.update_of_ne same]
        exact owner generation created_owner

/-- The agreement survives each answer. -/
theorem Agrees.answered {request : Request} {after : SessionView} {res : Int}
    {session : List UInt8} (agrees : Agrees history view)
    (answers : Answers request view res session after) :
    Agrees
      (if request.creates then history.create request.clientFd request.created else history)
      after := by
  by_cases creates : request.creates
  · rw [if_pos creates]
    have own : after.ids request.clientFd = request.created := by
      rw [answers.ids, if_pos ⟨creates, rfl⟩]
    have other (clientFd : Nat) (different : clientFd ≠ request.clientFd) :
        after.ids clientFd = view.ids clientFd := by
      rw [answers.ids, if_neg fun both => different both.2]
    constructor
    · exact answers.unnamed agrees.unnamed
    · intro clientFd used
      by_cases same : clientFd = request.clientFd
      · rw [same, own, answers.created_state creates]
        simp
      · rw [other clientFd same]
        simp only [Connections.create, Function.update_of_ne same] at used
        exact answers.known (agrees.known clientFd used)
    · intro clientFd unused
      by_cases same : clientFd = request.clientFd
      · simp [Connections.create, same] at unused
      · rw [other clientFd same]
        simp only [Connections.create, Function.update_of_ne same] at unused
        exact agrees.unused clientFd unused
    · intro clientFd generated
      by_cases same : clientFd = request.clientFd
      · simp [Connections.create, same]
      · simp only [Connections.create, Function.update_of_ne same] at generated ⊢
        exact agrees.used clientFd generated
    · intro clientFd generated
      by_cases same : clientFd = request.clientFd
      · rw [same, own]
        exact history.create_owns request.clientFd request.created
      · rw [other clientFd same]
        simp only [Connections.create, Function.update_of_ne same] at generated
        exact (agrees.owns clientFd generated).create same
  · rw [if_neg creates]
    have same : after.ids = view.ids := by
      funext clientFd
      rw [answers.ids, if_neg fun both => creates both.1]
    constructor
    · exact answers.unnamed agrees.unnamed
    · intro clientFd used
      rw [same]
      exact answers.known (agrees.known clientFd used)
    · intro clientFd unused
      rw [same]
      exact agrees.unused clientFd unused
    · exact agrees.used
    · intro clientFd generated
      rw [same]
      exact agrees.owns clientFd generated

end Steps

section Run

variable {history : Connections} {server : EpollServer} {event : Event} {request : Request}

/-- The agreement survives each stage. -/
theorem Agrees.step (agrees : Agrees history server.view) :
    Agrees (connections history (epollServer.stage server event))
      (epollServer.stage server event).after.view := by
  cases found : requestOf server event with
  | none =>
      rw [stage_silent_view found]
      rcases follow_silent found with same | ⟨clientFd, connects⟩
      · rw [connections, same]
        exact agrees
      · rw [connections, connects]
        exact agrees.connect clientFd
  | some request =>
      rw [connections, follow_request found]
      cases stage_serves found with
      | lost attaches missing same silent =>
          rw [if_neg (request.not_creates_of_attaches attaches), same]
          exact agrees
      | answered reply session answers => exact agrees.answered answers

/-- A request that creates a session is isolated. -/
theorem isolates_creates (found : requestOf server event = some request)
    (creates : request.creates) {reply : Reply}
    (sent : (epollServer.stage server event).output.reply = some reply) :
    reply.text = request.setupReply (request.session server.view) ∧
      (connections history (epollServer.stage server event)).Owns request.clientFd
        (request.session server.view) := by
  have text := sent.symm.trans (creates_reply found creates)
  rw [Request.session, if_pos creates, connections, follow_request found, if_pos creates]
  exact ⟨congrArg Reply.text (Option.some.inj text), history.create_owns _ _⟩

/-- A request for the second track is isolated exactly when its connection created a session. -/
theorem isolates_attaches (agrees : Agrees history server.view)
    (found : requestOf server event = some request) (attaches : request.attaches) {reply : Reply}
    (sent : (epollServer.stage server event).output.reply = some reply) :
    (reply.text = request.setupReply (request.session server.view) ∧
      (connections history (epollServer.stage server event)).Owns request.clientFd
        (request.session server.view)) ↔
      history.generated request.clientFd ≠ [] := by
  have joins := request.not_creates_of_attaches attaches
  rw [attaches_reply found attaches sent, Request.session, if_neg joins, connections,
    follow_request found, if_neg joins]
  constructor
  · rintro ⟨_, member, _⟩ empty
    rw [empty] at member
    exact absurd member (by simp)
  · exact fun generated => ⟨rfl, agrees.owns request.clientFd generated⟩

/-- A stage isolates the connections exactly when a second track follows a first one. -/
theorem isolatesConnections_iff (agrees : Agrees history server.view) :
    IsolatesConnections history (epollServer.stage server event) ↔
      EachRequest CreatesFirst history (epollServer.stage server event) := by
  constructor
  · intro isolates request found attaches
    cases stage_serves found with
    | lost _ missing _ _ =>
        right
        rw [Bool.eq_false_iff]
        exact fun used => agrees.known request.clientFd used missing
    | answered reply session answers sent _ _ =>
        left
        rw [← isolates_attaches agrees found attaches sent]
        exact isolates request reply found attaches.1 sent
  · intro first request reply found setup sent
    cases track : request.second with
    | false => exact isolates_creates found ⟨setup, track⟩ sent
    | true =>
        have attaches : request.attaches := ⟨setup, track⟩
        apply (isolates_attaches agrees found attaches sent).mpr
        rcases first request found attaches with generated | unused
        · exact generated
        · -- A descriptor without any session loses the request, so it has no reply.
          have empty := agrees.unused request.clientFd unused
          cases stage_serves found with
          | lost _ _ _ silent =>
              exact absurd (sent.symm.trans (congrArg Rtsp.Output.reply silent)) (by simp)
          | answered other session answers _ _ _ =>
              have missing : server.view.states (server.view.ids request.clientFd) = none := by
                rw [empty]
                exact agrees.unnamed
              exact absurd missing (answers.attached attaches)

end Run

/-- No connection of a run sees the session of an earlier one on its descriptor exactly when each
second track of the run follows a first track, or the descriptor never had a session. -/
theorem isolatesConnections_run_iff (events : List Event) :
    epollServer.Always connections Connections.start EpollServer.start events
        IsolatesConnections ↔
      epollServer.Always connections Connections.start EpollServer.start events
        (EachRequest CreatesFirst) :=
  Machine.always_iff_of_invariant (fun history server => Agrees history server.view)
    (fun _ _ _ => isolatesConnections_iff) (fun _ _ _ agrees _ _ => agrees.step)
    events _ _ Agrees.start

/-- The second client on a descriptor joins the session of the first one. -/
theorem isolatesConnections_fails :
    ¬epollServer.Always connections Connections.start EpollServer.start
      [.accept 5,
        sampleRequest 5 ["SETUP rtsp://h/track0 RTSP/1.0", "CSeq: 3"],
        .readable 5 ⟨[], by decide⟩ emptySurroundings,
        .accept 5,
        sampleRequest 5 ["SETUP rtsp://h/track1 RTSP/1.0", "CSeq: 4"]]
      IsolatesConnections := by
  intro always
  have fifth := always _ (List.mem_cons_of_mem _ (List.mem_cons_of_mem _ (List.mem_cons_of_mem _
    (List.mem_cons_of_mem _ List.mem_cons_self))))
  obtain ⟨_, member, _⟩ := fifth _ _ rfl (by decide) rfl
  exact absurd member (by decide)

end FzServer.Server
