import FzServer.Proof.Session.CompleteRequests

/-
This file shows that clients with their own sessions do not notice each other.
-/

namespace FzServer.Server

open Foundation Sessions Rtsp

/-- A party is a group of clients with the descriptors and the sessions that belong to it. -/
structure Party where
  clients : Nat → Bool
  sessions : List UInt8 → Bool

/-- Each descriptor belongs to the party or to the others. -/
def ClientEvent.clientFd : ClientEvent → Nat
  | .connect clientFd => clientFd
  | .fail clientFd => clientFd
  | .hangUp clientFd => clientFd
  | .ask given => given.clientFd

namespace Party

variable (party : Party)

def owns (event : ClientEvent) : Bool := party.clients event.clientFd

/-- A request names a session of its own side or none, and makes a session of its own side. -/
def Fair : ClientEvent → Prop
  | .ask ask =>
      (ask.named = [] ∨ party.sessions ask.named = party.clients ask.clientFd) ∧
        ask.created ≠ [] ∧ party.sessions ask.created = party.clients ask.clientFd
  | _ => True

instance : DecidablePred party.Fair
  | .connect _ => .isTrue trivial
  | .fail _ => .isTrue trivial
  | .hangUp _ => .isTrue trivial
  | .ask _ => inferInstanceAs (Decidable (_ ∧ _))

/-- Both directories say the same about the clients and the sessions of the party. -/
structure Alike (first second : Directory) : Prop where
  isOpen : ∀ clientFd, party.clients clientFd = true →
    first.isOpen clientFd = second.isOpen clientFd
  flags : ∀ clientFd, party.clients clientFd = true →
    first.flags clientFd = second.flags clientFd
  ids : ∀ clientFd, party.clients clientFd = true → first.ids clientFd = second.ids clientFd
  belongs : ∀ clientFd, party.clients clientFd = true →
    first.ids clientFd = [] ∨ party.sessions (first.ids clientFd) = true
  states : ∀ session, session = [] ∨ party.sessions session = true →
    first.states session = second.states session
  unnamed : first.states [] = none

variable {party}

theorem alike_start : party.Alike Directory.start Directory.start :=
  ⟨fun _ _ => rfl, fun _ _ => rfl, fun _ _ => rfl, fun _ _ => Or.inl rfl, fun _ _ => rfl, rfl⟩

/-- An update in the same place keeps two tables alike wherever they were. -/
theorem update_alike {Key Value : Type} [DecidableEq Key] {first second : Key → Value}
    {mine : Key → Prop} (same : ∀ key, mine key → first key = second key) (place : Key)
    (value : Value) :
    ∀ key, mine key →
      Function.update first place value key = Function.update second place value key := by
  intro key member
  by_cases here : key = place
  · rw [here, Function.update_self, Function.update_self]
  · rw [Function.update_of_ne here, Function.update_of_ne here, same key member]

/-- An update in a foreign place is not noticed. -/
theorem update_foreign {Key Value : Type} [DecidableEq Key] {first second : Key → Value}
    {mine : Key → Prop} (same : ∀ key, mine key → first key = second key) {place : Key}
    (foreign : ¬mine place) (value : Value) :
    ∀ key, mine key → Function.update first place value key = second key := by
  intro key member
  have apart : key ≠ place := fun here => foreign (by rwa [here] at member)
  rw [Function.update_of_ne apart, same key member]

/-- A fair request of the party names one of its sessions or none. -/
theorem fair_named {ask : Ask} (mine : party.clients ask.clientFd = true)
    (fair : party.Fair (.ask ask)) : ask.named = [] ∨ party.sessions ask.named = true := by
  obtain ⟨named, _⟩ := fair
  rwa [mine] at named

namespace Alike

variable {first second : Directory} (alike : party.Alike first second)

include alike

theorem finish {session : List UInt8} (mine : session = [] ∨ party.sessions session = true)
    (reply : Reply) : first.finish reply session = second.finish reply session := by
  rw [Directory.finish, Directory.finish, alike.states session mine]

theorem answer {session : List UInt8} (mine : session = [] ∨ party.sessions session = true)
    (ask : Ask) (res : Int) :
    (first.answer ask res session).2 = (second.answer ask res session).2 ∧
      party.Alike (first.answer ask res session).1 (second.answer ask res session).1 :=
  ⟨alike.finish mine _, alike⟩

/-- A new state of any session changes both directories alike. -/
theorem setState (session : List UInt8) (named : session ≠ []) (state : SessionStaus) :
    party.Alike { first with states := Function.update first.states session (some state) }
      { second with states := Function.update second.states session (some state) } :=
  { alike with
    states := update_alike alike.states session _
    unnamed := by
      change Function.update first.states session (some state) [] = none
      rw [Function.update_of_ne named.symm, alike.unnamed] }

/-- A new state of a foreign session is not noticed. -/
theorem setForeign {session : List UInt8} (named : session ≠ [])
    (foreign : party.sessions session = false) (state : SessionStaus) :
    party.Alike { first with states := Function.update first.states session (some state) } second :=
  { alike with
    states := update_foreign alike.states (by
      rw [foreign]
      exact fun mine => mine.elim named (by decide)) _
    unnamed := by
      change Function.update first.states session (some state) [] = none
      rw [Function.update_of_ne named.symm, alike.unnamed] }

/-- A client gets another session of its own side. -/
theorem setId {session : List UInt8} (clientFd : Nat)
    (side : party.sessions session = party.clients clientFd) :
    party.Alike { first with ids := Function.update first.ids clientFd session }
      { second with ids := Function.update second.ids clientFd session } :=
  { alike with
    ids := update_alike alike.ids clientFd session
    belongs := fun other mine => by
      by_cases same : other = clientFd
      · refine Or.inr ?_
        change party.sessions (Function.update first.ids clientFd session other) = true
        rw [same, Function.update_self, side, ← same, mine]
      · change Function.update first.ids clientFd session other = [] ∨
          party.sessions (Function.update first.ids clientFd session other) = true
        rw [Function.update_of_ne same]
        exact alike.belongs other mine }

theorem setForeignId {clientFd : Nat} (foreign : party.clients clientFd = false)
    (session : List UInt8) :
    party.Alike { first with ids := Function.update first.ids clientFd session } second :=
  { alike with
    ids := update_foreign alike.ids (by rw [foreign]; decide) session
    belongs := fun other mine => by
      have apart : other ≠ clientFd := fun same => by
        rw [same, foreign] at mine
        exact absurd mine (by decide)
      change Function.update first.ids clientFd session other = [] ∨
        party.sessions (Function.update first.ids clientFd session other) = true
      rw [Function.update_of_ne apart]
      exact alike.belongs other mine }

/-- The table of one kind of flags changes for a client. -/
theorem setFlag (clientFd : Nat) (flag : Bool) :
    party.Alike { first with flags := Function.update first.flags clientFd flag }
      { second with flags := Function.update second.flags clientFd flag } :=
  { alike with flags := update_alike alike.flags clientFd flag }

theorem setForeignFlag {clientFd : Nat} (foreign : party.clients clientFd = false) (flag : Bool) :
    party.Alike { first with flags := Function.update first.flags clientFd flag } second :=
  { alike with flags := update_foreign alike.flags (by rw [foreign]; decide) flag }

theorem setOpen (clientFd : Nat) (opened : Bool) :
    party.Alike { first with isOpen := Function.update first.isOpen clientFd opened }
      { second with isOpen := Function.update second.isOpen clientFd opened } :=
  { alike with isOpen := update_alike alike.isOpen clientFd opened }

theorem setForeignOpen {clientFd : Nat} (foreign : party.clients clientFd = false)
    (opened : Bool) :
    party.Alike { first with isOpen := Function.update first.isOpen clientFd opened } second :=
  { alike with isOpen := update_foreign alike.isOpen (by rw [foreign]; decide) opened }

section Own

variable {ask : Ask} (mine : party.clients ask.clientFd = true) (fair : party.Fair (.ask ask))

include mine fair

/-- A request of the party is answered alike. -/
theorem serve :
    (first.serve ask).2 = (second.serve ask).2 ∧
      party.Alike (first.serve ask).1 (second.serve ask).1 := by
  have named := fair_named mine fair
  obtain ⟨_, made, side⟩ := fair
  rw [Directory.serve, Directory.serve]
  cases ask.method with
  | none => exact alike.answer named ask (-2)
  | some method =>
      cases method with
      | OPTIONS | DESCRIBE | PAUSE | TEARDOWN => exact alike.answer named ask 0
      | PLAY =>
          simp only [Directory.play]
          rw [← alike.states ask.named named]
          by_cases unknown : first.states ask.named = none
          · rw [if_pos unknown, if_pos unknown]
            exact alike.answer named ask (-1)
          · rw [if_neg unknown, if_neg unknown]
            have given : ask.named ≠ [] := fun empty => unknown (empty ▸ alike.unnamed)
            exact (alike.setState ask.named given .PLAYING).answer named ask 0
      | SETUP =>
          simp only [Directory.setUp]
          rw [← alike.flags _ mine, ← alike.ids _ mine]
          by_cases track : first.flags ask.clientFd = false
          · rw [if_pos track, if_pos track]
            have both := (alike.setId ask.clientFd side).setState ask.created made ask.heapState
            exact both.answer (Or.inr (side.trans mine)) ask 0
          · rw [if_neg track, if_neg track]
            have belongs := alike.belongs _ mine
            rw [← alike.states _ belongs]
            by_cases unknown : first.states (first.ids ask.clientFd) = none
            · rw [if_pos unknown, if_pos unknown]
              exact ⟨rfl, alike⟩
            · rw [if_neg unknown, if_neg unknown]
              exact alike.answer belongs ask 0

end Own

/-- A request of the others is not noticed. -/
theorem foreign {ask : Ask} (others : party.clients ask.clientFd = false)
    (fair : party.Fair (.ask ask)) : party.Alike (first.serve ask).1 second := by
  obtain ⟨named, made, side⟩ := fair
  rw [others] at named side
  rw [Directory.serve]
  cases ask.method with
  | none => exact alike
  | some method =>
      cases method with
      | OPTIONS | DESCRIBE | PAUSE | TEARDOWN => exact alike
      | PLAY =>
          simp only [Directory.play]
          by_cases unknown : first.states ask.named = none
          · rw [if_pos unknown]
            exact alike
          · rw [if_neg unknown]
            have given : ask.named ≠ [] := fun empty => unknown (empty ▸ alike.unnamed)
            exact alike.setForeign given (named.resolve_left given) .PLAYING
      | SETUP =>
          simp only [Directory.setUp]
          split_ifs
          · exact (alike.setForeignId others ask.created).setForeign made side ask.heapState
          · exact alike
          · exact alike

end Alike

/-- The events of the party are answered alike, and the events of the others are not noticed. -/
def separation (party : Party) : Separation directory where
  own := party.owns
  fair := party.Fair
  alike := party.Alike
  ownStep first second given alike own fair := by
    cases given with
    | connect clientFd => exact ⟨rfl, alike.setOpen clientFd true⟩
    | fail clientFd => exact ⟨rfl, alike.setOpen clientFd false⟩
    | hangUp clientFd =>
        change (Directory.step first (.hangUp clientFd)).2 =
            (Directory.step second (.hangUp clientFd)).2 ∧
          party.Alike (Directory.step first (.hangUp clientFd)).1
            (Directory.step second (.hangUp clientFd)).1
        rw [Directory.step, Directory.step, ← alike.isOpen clientFd own]
        split_ifs
        · exact ⟨rfl, alike.setOpen clientFd false⟩
        · exact ⟨rfl, alike⟩
    | ask ask =>
        have mine : party.clients ask.clientFd = true := own
        have selected : party.Alike (first.select ask) (second.select ask) := by
          rw [Directory.select, Directory.select]
          cases ask.track with
          | none => exact alike
          | some flag => exact alike.setFlag ask.clientFd flag
        change (Directory.step first (.ask ask)).2 = (Directory.step second (.ask ask)).2 ∧
          party.Alike (Directory.step first (.ask ask)).1 (Directory.step second (.ask ask)).1
        rw [Directory.step, Directory.step, ← alike.isOpen _ mine]
        split_ifs
        · exact selected.serve mine fair
        · exact ⟨rfl, alike⟩
  otherStep first second given alike other fair := by
    cases given with
    | connect clientFd => exact alike.setForeignOpen other true
    | fail clientFd => exact alike.setForeignOpen other false
    | hangUp clientFd =>
        change party.Alike (Directory.step first (.hangUp clientFd)).1 second
        rw [Directory.step]
        split_ifs
        · exact alike.setForeignOpen other false
        · exact alike
    | ask ask =>
        have others : party.clients ask.clientFd = false := other
        have selected : party.Alike (first.select ask) second := by
          rw [Directory.select]
          cases ask.track with
          | none => exact alike
          | some flag => exact alike.setForeignFlag others flag
        change party.Alike (Directory.step first (.ask ask)).1 second
        rw [Directory.step]
        split_ifs
        · exact selected.foreign others fair
        · exact alike

/-- These are the answers of the server to the events of the party. -/
def answers (party : Party) (events : List Event) : List Output :=
  ((epollServer.run EpollServer.start events).filter fun now =>
    party.owns (clientEvent now.event)).map Stage.output

theorem answers_directory (party : Party) (events : List Event) :
    party.answers events =
      party.separation.answers Directory.start (events.map clientEvent) := by
  have same := serverSimulation.run EpollServer.start events
  change directory.run Directory.start (events.map clientEvent) = _ at same
  rw [answers, Separation.answers, same, List.filter_map, List.map_map]
  rfl

end Party

/-- Whatever its requests find in the arrays, the party gets the answers that it would get alone,
up to a request of the others that ends the process. -/
theorem clients_isolated (party : Party) (events alone : List Event)
    (fair : ∀ event ∈ events, party.Fair (clientEvent event))
    (whole : ∀ event ∈ events, party.owns (clientEvent event) = true → event.Whole)
    (refilled : Refilled (events.filter fun event => party.owns (clientEvent event)) alone)
    (fits : RunFits events) (aloneFits : RunFits alone) :
    RunInArrays events ∧ RunInArrays alone ∧ party.answers events <+: party.answers alone ∧
      ((∀ now ∈ epollServer.run EpollServer.start events,
          party.owns (clientEvent now.event) = false → now.output.exit ≠ .nullSession) →
        party.answers events = party.answers alone) := by
  refine ⟨run_inArrays fits, run_inArrays aloneFits, ?_⟩
  obtain ⟨front, all⟩ := party.separation.answers_prefix Party.alike_start
    (events.map clientEvent) (List.forall_mem_map.mpr fair)
  have kept : (events.map clientEvent).filter party.separation.own =
      (events.filter fun event => party.owns (clientEvent event)).map clientEvent :=
    List.filter_map
  have same : alone.map clientEvent =
      (events.filter fun event => party.owns (clientEvent event)).map clientEvent :=
    refilled.clientEvents fun event member =>
      whole event (List.mem_filter.mp member).1 (List.mem_filter.mp member).2
  rw [kept, ← same, ← Party.answers_directory, ← Party.answers_directory] at front all
  refine ⟨front, fun goes => all fun now member other => ?_⟩
  have run := serverSimulation.run EpollServer.start events
  change directory.run Directory.start (events.map clientEvent) = _ at run
  rw [run] at member
  obtain ⟨stage, inside, rfl⟩ := List.mem_map.mp member
  exact decide_eq_false (goes stage inside other)

/-- This client draws other random bytes than the sample requests do. -/
def otherSurroundings : Surroundings :=
  { emptySurroundings with randomBytes := Vector.replicate 16 1 }

/-- The arrays hold the texts of another client. -/
def foreignLeftover : Leftover where
  residue := ⟨ascii "OPTIONS", ascii "rtsp://h/track1", ascii "RTSP/1.0",
    generateSessionId otherSurroundings.randomBytes, ascii "RTSP/1.0 200 OK"⟩
  localIp := ascii "10.0.0.1"
  pastBuffer := ascii "PLAY"

/-- The client sets up a session and plays it. -/
def firstSetUp : Event := sampleRequest 5 ["SETUP rtsp://h/track0 RTSP/1.0", "CSeq: 3"]

def firstPlay : Event :=
  sampleRequest 5 ["PLAY rtsp://h/ RTSP/1.0", "CSeq: 4",
    "Session: 00000000000000000000000000000000"]

/-- Another client does the same in between, and the arrays keep its texts. -/
def sideBySide : List Event :=
  [.accept 5, .accept 6, firstSetUp,
    .readable 6 (receivedLines ["SETUP rtsp://h/track0 RTSP/1.0", "CSeq: 3"]) otherSurroundings,
    .readable 6 (receivedLines ["PLAY rtsp://h/ RTSP/1.0", "CSeq: 4",
      "Session: 01010101010101010101010101010101"]) otherSurroundings,
    foreignLeftover.refill firstPlay]

/-- The first of the two clients and its session are a party. -/
def firstClient : Party where
  clients clientFd := clientFd = 5
  sessions session := session = generateSessionId emptySurroundings.randomBytes

theorem clients_isolated_two :
    let alone := [.accept 5, foreignLeftover.refill firstSetUp, firstPlay]
    RunInArrays sideBySide ∧ RunInArrays alone ∧
      firstClient.answers sideBySide <+: firstClient.answers alone ∧
      ((∀ now ∈ epollServer.run EpollServer.start sideBySide,
          firstClient.owns (clientEvent now.event) = false → now.output.exit ≠ .nullSession) →
        firstClient.answers sideBySide = firstClient.answers alone) := by
  have kept : Refilled [.accept 5, firstSetUp, foreignLeftover.refill firstPlay]
      [.accept 5, foreignLeftover.refill firstSetUp, firstPlay] :=
    .cons ⟨foreignLeftover, rfl⟩ (.cons ⟨foreignLeftover, rfl⟩
      (.cons ⟨⟨⟨[], [], [], [], []⟩, [], []⟩, rfl⟩ .nil))
  exact clients_isolated firstClient sideBySide _ (by decide +kernel) (by decide +kernel) kept
    (by decide +kernel) (by decide +kernel)

end FzServer.Server
