import FzServer.Proof.Handshake.Lessons
import FzServer.Proof.Parsing.Faithful

/-
This file follows the conversation of one player through every run of the server.
-/

namespace FzServer.Handshake

open Foundation Sessions Rtsp Rtp Server Parsing Media Replies Packetisation Streaming

/-- The server made the session, keeps it, and remembers it for the descriptor. -/
structure Joined (view : SessionView) (clientFd : Nat) (session : List UInt8) : Prop where
  made : ∃ randomBytes, session = generateSessionId randomBytes
  held : view.ids clientFd = session
  known : view.states session ≠ none

/-- The player is in one of its states, and the server knows the session that it uses. -/
inductive Stands (url : List UInt8) (clientFd : Nat) (view : SessionView) : Player → Prop
  | start : Stands url clientFd view (.start url)
  | offered : Stands url clientFd view (.offered url)
  | described : Stands url clientFd view (.described url)
  | oneTrack (session : List UInt8) (joined : Joined view clientFd session) :
      Stands url clientFd view (.oneTrack url session)
  | bothTracks (session : List UInt8) (joined : Joined view clientFd session) :
      Stands url clientFd view (.bothTracks url session)
  | satisfied (session : List UInt8) (joined : Joined view clientFd session) :
      Stands url clientFd view (.satisfied url session)

/-- The view keeps the session of the descriptor. -/
structure Keeps (clientFd : Nat) (before after : SessionView) : Prop where
  ids : after.ids clientFd = before.ids clientFd
  known : ∀ session, before.states session ≠ none → after.states session ≠ none

theorem Keeps.refl (clientFd : Nat) (view : SessionView) : Keeps clientFd view view :=
  ⟨rfl, fun _ known => known⟩

section Frame

variable {url session : List UInt8} {clientFd : Nat} {before after : SessionView} {player : Player}

theorem Joined.keeps (joined : Joined before clientFd session)
    (keeps : Keeps clientFd before after) : Joined after clientFd session :=
  ⟨joined.made, keeps.ids.trans joined.held, keeps.known session joined.known⟩

theorem Stands.keeps (stands : Stands url clientFd before player)
    (keeps : Keeps clientFd before after) : Stands url clientFd after player := by
  cases stands with
  | start => exact .start
  | offered => exact .offered
  | described => exact .described
  | oneTrack session joined => exact .oneTrack session (joined.keeps keeps)
  | bothTracks session joined => exact .bothTracks session (joined.keeps keeps)
  | satisfied session joined => exact .satisfied session (joined.keeps keeps)

theorem Joined.named_ne (joined : Joined before clientFd session) : session ≠ [] := by
  obtain ⟨randomBytes, rfl⟩ := joined.made
  exact generateSessionId_ne_nil randomBytes

/-- A request of the player names no session or one that the server knows. -/
theorem Stands.named_known (stands : Stands url clientFd before player) {query : Query}
    (next : player.next = some query) :
    ¬(query.session.getD [] ≠ [] ∧ before.states (query.session.getD []) = none) := by
  rintro ⟨named, missing⟩
  cases stands with
  | start =>
      obtain rfl := Option.some.inj next
      exact named rfl
  | offered =>
      obtain rfl := Option.some.inj next
      exact named rfl
  | described =>
      obtain rfl := Option.some.inj next
      exact named rfl
  | oneTrack session joined =>
      obtain rfl := Option.some.inj next
      have name : (Player.oneTrack url session).named = some session := if_neg joined.named_ne
      rw [name, Option.getD_some] at missing
      exact joined.known missing
  | bothTracks session joined =>
      obtain rfl := Option.some.inj next
      have name : (Player.bothTracks url session).named = some session := if_neg joined.named_ne
      rw [name, Option.getD_some] at missing
      exact joined.known missing
  | satisfied session joined => cases next

end Frame

theorem ofText_text (method : Method) : Method.ofText method.text = some method := by
  cases method <;> decide

section Requests

variable {server : EpollServer} {event : Event} {request : Request} {clientFd : Nat}
  {player : Player}

/-- The handler reads the request of the player as it stands. -/
theorem follows_reads (follows : Follows clientFd player (epollServer.stage server event))
    (found : requestOf server event = some request) (same : request.clientFd = clientFd) :
    ∃ asked : RtspRequest,
      player.next = some ⟨asked.method, asked.url.text, asked.cseq, asked.session⟩ ∧
        asked.Reads (server.handler clientFd request.surroundings) request.scanned := by
  obtain ⟨opened, received, surroundings, rfl, connected, bytes, rfl⟩ := requestOf_readable found
  have frame := parseRequest_frame received.bytes surroundings (server.handler opened surroundings)
  have owner : opened = clientFd := frame.clientFd.symm.trans same
  subst owner
  obtain ⟨asked, rfl, clear, next⟩ := follows received surroundings rfl connected bytes
  exact ⟨asked, next, faithful_of_unambiguous clear surroundings _ rfl⟩

/-- Only a request that creates a session for the descriptor changes the session of it. -/
theorem stage_keeps (found : requestOf server event = some request)
    (other : ¬(request.creates ∧ clientFd = request.clientFd)) :
    Keeps clientFd server.view (epollServer.stage server event).after.view := by
  cases stage_serves found with
  | lost _ _ same _ =>
      rw [same]
      exact Keeps.refl clientFd server.view
  | answered reply session answers _ _ _ =>
      constructor
      · rw [answers.ids clientFd, if_neg other]
        rfl
      · exact fun name known => answers.known known

/-- A known session plays. -/
theorem play_media (found : requestOf server event = some request)
    (play : request.method = some .PLAY) (named : request.named ≠ [])
    (known : server.view.states request.named ≠ none) :
    (epollServer.stage server event).output.media = true := by
  cases stage_serves found with
  | lost attaches => exact absurd attaches (request.not_attaches_of_play play)
  | answered reply session answers _ media _ =>
      rw [media]
      generalize reply.res = res at answers
      generalize (epollServer.stage server event).after.view = after at answers
      cases answers with
      | plain _ noPlay => exact absurd play noPlay
      | refused _ missing => exact absurd missing known
      | plays => exact ⟨named, Function.update_self _ _ _⟩
      | creates creates => exact absurd creates (request.not_creates_of_play play)
      | attaches attaches => exact absurd attaches (request.not_attaches_of_play play)

/-- The player hears a reply that takes it on, and it plays only when the media starts. -/
def Heard (url : List UInt8) (clientFd : Nat) (player : Player) (now : ServerStage) : Prop :=
  ∃ reply message learned, now.output.reply = some reply ∧
    messageCodec.decode reply.text = some (message, []) ∧ player.learn message = some learned ∧
    learned.sent = player.sent + 1 ∧ Stands url clientFd now.after.view learned ∧
    (learned.playing = true → now.output.media = true)

variable {url : List UInt8} {asked : RtspRequest}

/-- A reply that the handler builds is what the player hears. -/
theorem heard_of_built (found : requestOf server event = some request) {sBuf : List UInt8}
    {handler : RtspHandler} (result : request.built = some ⟨0, sBuf, handler⟩) {number : Int}
    {message : Message} (responds : Responds sBuf number message) {learned : Player}
    (learns : player.learn message = some learned) (counts : learned.sent = player.sent + 1)
    (stands : Stands url clientFd (epollServer.stage server event).after.view learned)
    (media : learned.playing = true → (epollServer.stage server event).output.media = true) :
    Heard url clientFd player (epollServer.stage server event) :=
  ⟨_, message, learned, reply_of_built found result, responds.decodes, learns, counts, stands,
    media⟩

theorem heard_options (found : requestOf server event = some request)
    (reads : asked.Reads (server.handler clientFd request.surroundings) request.scanned)
    (next : (Player.start url).next =
      some ⟨asked.method, asked.url.text, asked.cseq, asked.session⟩) :
    Heard url clientFd (.start url) (epollServer.stage server event) := by
  obtain ⟨method, _, cseq, _⟩ := Query.mk.inj (Option.some.inj next)
  have kind : Method.ofText request.scanned.method = some .OPTIONS := by
    rw [reads.method, ← method]
    exact ofText_text _
  have number : request.scanned.CSeq = 1 := by
    rw [reads.cseq, ← cseq]
    rfl
  have result : request.built =
      some ⟨0, handleCmd_OPTIONS request.scanned.CSeq, request.scanned.handler⟩ := by
    rw [Request.built, build_string_tcp, kind]
  rw [number] at result
  exact heard_of_built found result (OPTIONS_responds 1) Player.learn_options rfl .offered
    (fun playing => absurd playing Bool.false_ne_true)

theorem heard_describe (host : HostUrl url) (found : requestOf server event = some request)
    (reads : asked.Reads (server.handler clientFd request.surroundings) request.scanned)
    (next : (Player.offered url).next =
      some ⟨asked.method, asked.url.text, asked.cseq, asked.session⟩) :
    Heard url clientFd (.offered url) (epollServer.stage server event) := by
  obtain ⟨method, address, cseq, _⟩ := Query.mk.inj (Option.some.inj next)
  have kind : Method.ofText request.scanned.method = some .DESCRIBE := by
    rw [reads.method, ← method]
    exact ofText_text _
  have number : request.scanned.CSeq = 2 := by
    rw [reads.cseq, ← cseq]
    rfl
  have base : request.scanned.url = url := reads.url.trans address.symm
  have solid : Solid url := by
    rw [show url = asked.url.text from address]
    exact fun character member => (asked.url.solid character member).1
  have result : request.built = some ⟨0, handleCmd_DESCRIBE request.surroundings.time
      (cstring request.surroundings.localIp) request.scanned.CSeq request.scanned.url,
      request.scanned.handler⟩ := by
    rw [Request.built, build_string_tcp, kind]
  rw [number, base] at result
  exact heard_of_built found result (DESCRIBE_responds 2 _ _ solid.unbroken.1)
    (Player.learn_describe host solid _ _) rfl .described
    (fun playing => absurd playing Bool.false_ne_true)

/-- The url of a track sets the flag of the descriptor. -/
theorem second_controlUrl (host : HostUrl url) {control : List UInt8}
    (reads : asked.Reads (server.handler clientFd request.surroundings) request.scanned)
    (address : controlUrl url control = asked.url.text)
    (track : control = ascii "track0" ∨ control = ascii "track1") :
    request.second = decide (control = ascii "track1") := by
  have plain : ∀ character ∈ control, character ≠ 0x3F ∧ character ≠ 0x23 ∧ character ≠ 0x2F := by
    rcases track with rfl | rfl
    · decide +kernel
    · decide +kernel
  have last := lastComponent_controlUrl host.path plain
  rw [address] at last
  rw [Request.second, Request.clientFd, reads.handler, RtspRequest.selectTrack, last]
  rcases track with rfl | rfl
  · simp [ClientFdManager.setAvFlags, ClientFdManager.flag, EpollServer.handler, ascii]
  · simp [ClientFdManager.setAvFlags, ClientFdManager.flag, EpollServer.handler, ascii]

/-- The first track gets a session of its own. -/
theorem heard_first (host : HostUrl url) (found : requestOf server event = some request)
    (same : request.clientFd = clientFd)
    (reads : asked.Reads (server.handler clientFd request.surroundings) request.scanned)
    (next : (Player.described url).next =
      some ⟨asked.method, asked.url.text, asked.cseq, asked.session⟩) :
    Heard url clientFd (.described url) (epollServer.stage server event) := by
  obtain ⟨method, address, cseq, _⟩ := Query.mk.inj (Option.some.inj next)
  have setup : request.method = some .SETUP := by
    rw [Request.method, reads.method, ← method]
    exact ofText_text _
  have first : request.second = false := by
    rw [second_controlUrl host reads address (Or.inl rfl)]
    decide
  have number : request.scanned.CSeq = if request.second then 4 else 3 := by
    rw [reads.cseq, ← cseq, first]
    rfl
  have creates : request.creates := ⟨setup, first⟩
  have joined : Joined (epollServer.stage server event).after.view clientFd request.created := by
    cases stage_serves found with
    | lost attaches => exact absurd creates (request.not_creates_of_attaches attaches)
    | answered reply session answers _ _ _ =>
        refine ⟨⟨_, rfl⟩, ?_, ?_⟩
        · rw [answers.ids clientFd, if_pos ⟨creates, same.symm⟩]
        · rw [answers.created_state creates]
          exact Option.some_ne_none _
  obtain ⟨message, transport, responds, status, session, channels, pair⟩ :=
    announcement request request.second number (generateSessionId_solid _)
  rw [first] at responds pair
  have grants : Grants message 3 request.created (0, 1) :=
    ⟨status, responds.number, session, by rw [channels]; exact pair⟩
  exact ⟨_, message, _, creates_reply found creates, responds.decodes, Player.learn_first grants,
    rfl, .oneTrack _ joined, fun playing => absurd playing Bool.false_ne_true⟩

/-- The second track joins it. -/
theorem heard_second (host : HostUrl url) {session : List UInt8}
    (joined : Joined server.view clientFd session) (found : requestOf server event = some request)
    (same : request.clientFd = clientFd)
    (reads : asked.Reads (server.handler clientFd request.surroundings) request.scanned)
    (next : (Player.oneTrack url session).next =
      some ⟨asked.method, asked.url.text, asked.cseq, asked.session⟩) :
    Heard url clientFd (.oneTrack url session) (epollServer.stage server event) := by
  obtain ⟨method, address, cseq, _⟩ := Query.mk.inj (Option.some.inj next)
  have setup : request.method = some .SETUP := by
    rw [Request.method, reads.method, ← method]
    exact ofText_text _
  have second : request.second = true := by
    rw [second_controlUrl host reads address (Or.inr rfl)]
    decide
  have number : request.scanned.CSeq = if request.second then 4 else 3 := by
    rw [reads.cseq, ← cseq, second]
    rfl
  have attaches : request.attaches := ⟨setup, second⟩
  have held : server.clientFdManager.sessionId request.clientFd = session := same ▸ joined.held
  obtain ⟨sess, stored⟩ := Option.ne_none_iff_exists'.mp
    (mt (stateOf_eq_none server.sessionManager session).mpr joined.known)
  obtain ⟨sent, _⟩ := attaches_session found attaches (held.symm ▸ stored)
  rw [held] at sent
  have keeps : Keeps clientFd server.view (epollServer.stage server event).after.view :=
    stage_keeps found fun both => request.not_creates_of_attaches attaches both.1
  have solid : Solid session := by
    obtain ⟨randomBytes, rfl⟩ := joined.made
    exact generateSessionId_solid randomBytes
  obtain ⟨message, transport, responds, status, named, channels, pair⟩ :=
    announcement request request.second number solid
  rw [second] at responds pair
  have grants : Grants message 4 session (2, 3) :=
    ⟨status, responds.number, named, by rw [channels]; exact pair⟩
  exact ⟨_, message, _, sent, responds.decodes, Player.learn_second grants,
    rfl, .bothTracks session (joined.keeps keeps), fun playing => absurd playing Bool.false_ne_true⟩

/-- The session plays. -/
theorem heard_play {session : List UInt8} (joined : Joined server.view clientFd session)
    (found : requestOf server event = some request)
    (reads : asked.Reads (server.handler clientFd request.surroundings) request.scanned)
    (next : (Player.bothTracks url session).next =
      some ⟨asked.method, asked.url.text, asked.cseq, asked.session⟩) :
    Heard url clientFd (.bothTracks url session) (epollServer.stage server event) := by
  obtain ⟨method, _, cseq, name⟩ := Query.mk.inj (Option.some.inj next)
  have play : request.method = some .PLAY := by
    rw [Request.method, reads.method, ← method]
    exact ofText_text _
  have number : request.scanned.CSeq = 5 := by
    rw [reads.cseq, ← cseq]
    rfl
  have named : request.named = session := by
    have written : (Player.bothTracks url session).named = some session := if_neg joined.named_ne
    rw [Request.named, reads.handler, ← name, written]
    rfl
  obtain ⟨ss, stored⟩ := Option.ne_none_iff_exists'.mp
    (mt (stateOf_eq_none server.sessionManager session).mpr joined.known)
  have held : request.scanned.handler.session_ = session := named
  have result := built_play request play
  rw [buildPlay, requestOf_sessions found, held, stored, number] at result
  have keeps : Keeps clientFd server.view (epollServer.stage server event).after.view :=
    stage_keeps found fun both => request.not_creates_of_play play both.1
  have media : (epollServer.stage server event).output.media = true :=
    play_media found play (named.symm ▸ joined.named_ne) (named.symm ▸ joined.known)
  obtain ⟨randomBytes, made⟩ := joined.made
  have solid : Solid session := made ▸ generateSessionId_solid randomBytes
  refine heard_of_built found result (PLAY_responds 5 solid.unbroken.1) ?_ rfl
    (.satisfied session (joined.keeps keeps)) (fun _ => media)
  rw [made]
  exact Player.learn_play randomBytes

end Requests

section Media

variable (url session : List UInt8)

/-- The payload type of the video track stands in each of its packets. -/
theorem trackOf_video (units : List (Memory UInt8 × Nat)) :
    ∀ packet ∈ unitPackets videoStartHeader units,
      (Player.satisfied url session).trackOf (0x00, packet) = some videoTrack := by
  intro packet member
  obtain ⟨pictures, _, stamps⟩ := unitPackets_stamps videoStartHeader units 0 0
  rw [stamp_zero] at stamps
  obtain ⟨index, inside, rfl⟩ := List.mem_iff_getElem.mp member
  obtain ⟨payload, same⟩ := stamps index _ (List.getElem?_eq_getElem inside)
  rw [same, Nat.zero_add, Nat.zero_add, Player.trackOf, decodeRtp_wirePacket, videoHeader_stamp]
  rfl

theorem trackOf_audio (kept : List (List UInt8)) :
    ∀ packet ∈ framePackets audioStartHeader kept,
      (Player.satisfied url session).trackOf (0x02, packet) = some audioTrack := by
  intro packet member
  obtain ⟨index, inside, rfl⟩ := List.mem_iff_getElem.mp member
  have place := framePackets_stamps audioStartHeader kept 0 0 index
  rw [stamp_zero, List.getElem?_eq_getElem inside, Nat.zero_add, Nat.zero_add] at place
  obtain ⟨payload, _, same⟩ := Option.map_eq_some_iff.mp place.symm
  rw [← same, Player.trackOf, decodeRtp_wirePacket, audioHeader_stamp]
  rfl

/-- The player that set up both tracks tells all packets apart. -/
theorem satisfied_demultiplexes (playback : Playback) :
    Demultiplexes (.satisfied url session) playback := by
  obtain ⟨encodes, valid⟩ := playback.encodes
  obtain ⟨units, kept, mixes, _⟩ := playback.mixes
  have video := trackOf_video url session units
  have audio := trackOf_audio url session kept
  have different : audioTrack ≠ videoTrack := by decide
  have payloads (channel : UInt8) (packets : List (List UInt8)) :
      (packets.map (Prod.mk channel)).map Prod.snd =
        (packets.map (tcpFrame channel)).map (List.drop 4) := by
    rw [List.map_map, List.map_map]
    exact List.map_congr_left fun packet _ => (tcpFrame_drop channel packet).symm
  refine ⟨playback.inBounds, ?_, videoTrack, audioTrack, rfl, ⟨rfl, rfl⟩, ⟨rfl, rfl⟩, ?_, ?_⟩
  · rw [encodes]
    exact interleavedCodec.decodeAll_encodeAll _ valid
  · rw [mixes.videoSent, ← payloads, mixes.order.filter_right]
    · intro packet member
      obtain ⟨bytes, held, rfl⟩ := List.mem_map.mp member
      rw [audio bytes held]
      simp [different]
    · intro packet member
      obtain ⟨bytes, held, rfl⟩ := List.mem_map.mp member
      rw [video bytes held]
      simp
  · rw [mixes.audioSent, ← payloads, mixes.order.filter_left]
    · intro packet member
      obtain ⟨bytes, held, rfl⟩ := List.mem_map.mp member
      rw [audio bytes held]
      simp
    · intro packet member
      obtain ⟨bytes, held, rfl⟩ := List.mem_map.mp member
      rw [video bytes held]
      simp [different.symm]

end Media

section Runs

variable {url : List UInt8} {clientFd : Nat} {player : Player} {server : EpollServer}
  {event : Event}

/-- The next request of a player is heard, whatever its state. -/
theorem stage_heard (host : HostUrl url) (stands : Stands url clientFd server.view player)
    (follows : Follows clientFd player (epollServer.stage server event)) {request : Request}
    (found : requestOf server event = some request) (same : request.clientFd = clientFd) :
    Heard url clientFd player (epollServer.stage server event) := by
  obtain ⟨asked, next, reads⟩ := follows_reads follows found same
  cases stands with
  | start => exact heard_options found reads next
  | offered => exact heard_describe host found reads next
  | described => exact heard_first host found same reads next
  | oneTrack session joined => exact heard_second host joined found same reads next
  | bothTracks session joined => exact heard_play joined found reads next
  | satisfied session joined => cases next

/-- The process goes on behind a reply to the player. -/
theorem stage_goesOn (stands : Stands url clientFd server.view player)
    (follows : Follows clientFd player (epollServer.stage server event)) {request : Request}
    (found : requestOf server event = some request) (same : request.clientFd = clientFd)
    {reply : Reply} (sent : (epollServer.stage server event).output.reply = some reply) :
    (epollServer.stage server event).output.exit ≠ .nullSession := by
  obtain ⟨asked, next, reads⟩ := follows_reads follows found same
  cases stage_serves found with
  | lost _ _ _ silent =>
      rw [silent] at sent
      cases sent
  | answered other session answers _ _ exit =>
      rw [Ne, exit]
      rintro ⟨named, missing⟩
      refine answers.survives ?_ named missing
      rw [show request.named = asked.session.getD [] by rw [Request.named, reads.handler]]
      exact stands.named_known next

/-- The fifth reply satisfies the player. -/
theorem Stands.playing_iff {view : SessionView} (stands : Stands url clientFd view player) :
    player.playing = true ↔ player.sent = 5 := by
  cases stands with
  | start | offered | described => simp [Player.start, Player.offered, Player.described]
  | oneTrack session | bothTracks session | satisfied session =>
      simp [Player.satisfied, Player.bothTracks, Player.oneTrack]

/-- The player that plays is the satisfied one. -/
theorem Stands.satisfied_of_playing {view : SessionView} (stands : Stands url clientFd view player)
    (playing : player.playing = true) : ∃ session, player = .satisfied url session := by
  cases stands with
  | satisfied session joined => exact ⟨session, rfl⟩
  | start | offered | described => cases playing
  | oneTrack | bothTracks => cases playing

/-- Whoever asks, the player stands in one of its states. -/
theorem stage_stands (host : HostUrl url) (stands : Stands url clientFd server.view player)
    (follows : Follows clientFd player (epollServer.stage server event)) :
    Stands url clientFd (epollServer.stage server event).after.view
      (listen clientFd url player (epollServer.stage server event)) := by
  cases found : requestOf server event with
  | none =>
      rw [stage_silent_view found]
      rcases follow_silent found with same | ⟨opened, fresh⟩
      · rw [listen, same]
        exact stands
      · rw [listen, fresh]
        split_ifs
        · exact .start
        · exact stands
  | some request =>
      rw [listen, follow_request found]
      split_ifs with same
      · obtain ⟨reply, message, learned, sent, decoded, learns, _, after, _⟩ :=
          stage_heard host stands follows found same
        have heard : player.hear (epollServer.stage server event).output = learned := by
          simp [Player.hear, sent, decoded, learns]
        rw [heard]
        exact after
      · exact stands.keeps (stage_keeps found fun both => same both.2.symm)

/-- While all requests fit the arrays, a player that writes what it has learned to ask is served
until it plays both tracks. -/
theorem conversation_run (clientFd : Nat) (host : HostUrl url) (events : List Event)
    (follows : epollServer.Always (listen clientFd url) (.start url) EpollServer.start events
      (Follows clientFd)) (fits : RunFits events) :
    RunInArrays events ∧
      epollServer.Always (listen clientFd url) (.start url) EpollServer.start events
        (Serviced clientFd) :=
  ⟨run_inArrays fits,
    Machine.always_of_invariant (fun player server => Stands url clientFd server.view player)
      (fun player server event stands follows request found same => by
        obtain ⟨reply, message, learned, sent, decoded, learns, counts, after, media⟩ :=
          stage_heard host stands follows found same
        refine ⟨reply, message, learned, sent, decoded, learns,
          stage_goesOn stands follows found same sent, counts, after.playing_iff,
          fun playing => ⟨media playing, ?_⟩⟩
        obtain ⟨session, rfl⟩ := after.satisfied_of_playing playing
        exact satisfied_demultiplexes url session)
      (fun _ _ _ stands follows _ => stage_stands host stands follows)
      events _ _ .start follows⟩

end Runs

section Sample

def sampleToken (text : List UInt8)
    (solid : text ≠ [] ∧ ∀ character ∈ text, isspace character = false ∧ character ≠ 0) : Token :=
  ⟨text, solid.1, solid.2⟩

theorem space_blank : ∀ character ∈ ascii " ", character = 0x20 ∨ character = 0x09 := by
  decide +kernel

def sampleNumber (text : List UInt8)
    (digits : text ≠ [] ∧ ∀ character ∈ text, isdigit character = true) : Header :=
  .cseq ⟨ascii " ", space_blank⟩ ⟨text, digits.1, digits.2⟩

def sampleUrl : Token := sampleToken (ascii "rtsp://h:8554/x") (by decide +kernel)

/-- The surroundings of the sample draw zeros. -/
def sampleName : Token :=
  sampleToken (ascii "00000000000000000000000000000000") (by decide +kernel)

def sampleHeader : Header := .session ⟨ascii " ", space_blank⟩ sampleName (by decide)

def sampleOptions : RtspRequest :=
  ⟨⟨.OPTIONS, sampleUrl, [sampleNumber (ascii "1") (by decide +kernel)]⟩, by decide, 1,
    by decide, none, by decide, by decide +kernel⟩

def sampleDescribe : RtspRequest :=
  ⟨⟨.DESCRIBE, sampleUrl, [sampleNumber (ascii "2") (by decide +kernel)]⟩, by decide, 2,
    by decide, none, by decide, by decide +kernel⟩

def sampleFirst : RtspRequest :=
  ⟨⟨.SETUP, sampleToken (ascii "rtsp://h:8554/x/track0") (by decide +kernel),
    [sampleNumber (ascii "3") (by decide +kernel)]⟩, by decide, 3, by decide, none, by decide,
    by decide +kernel⟩

def sampleSecond : RtspRequest :=
  ⟨⟨.SETUP, sampleToken (ascii "rtsp://h:8554/x/track1") (by decide +kernel),
    [sampleNumber (ascii "4") (by decide +kernel), sampleHeader]⟩, by decide, 4, by decide,
    some sampleName.text, by decide, by decide +kernel⟩

def samplePlay : RtspRequest :=
  ⟨⟨.PLAY, sampleUrl, [sampleNumber (ascii "5") (by decide +kernel), sampleHeader]⟩,
    by decide, 5, by decide, some sampleName.text, by decide, by decide +kernel⟩

def sampleRequests : List RtspRequest :=
  [sampleOptions, sampleDescribe, sampleFirst, sampleSecond, samplePlay]

theorem sampleRequests_unambiguous : ∀ asked ∈ sampleRequests, asked.Unambiguous := by
  simp only [sampleRequests, List.forall_mem_cons, List.not_mem_nil, false_implies, implies_true,
    and_true]
  refine ⟨?_, ?_, ?_, ?_, ?_⟩
  all_goals exact ⟨by decide +kernel, by decide +kernel, by decide +kernel, by decide +kernel,
    by decide +kernel, by decide +kernel⟩

/-- The player has learned to ask what arrives. -/
def sampleAsked (player : Player) : Event → Bool
  | .readable clientFd received _ =>
      clientFd ≠ 5 || sampleRequests.any fun asked =>
        received.bytes = asked.received.bytes &&
          player.next = some ⟨asked.method, asked.url.text, asked.cseq, asked.session⟩
  | _ => true

theorem follows_of_sampleAsked {player : Player} {now : ServerStage}
    (asks : sampleAsked player now.event = true) : Follows 5 player now := by
  intro received surroundings same _ _
  rw [same, sampleAsked, Bool.or_eq_true, List.any_eq_true] at asks
  rcases asks with other | ⟨asked, member, holds⟩
  · exact absurd other (by decide)
  · obtain ⟨bytes, next⟩ := Bool.and_eq_true_iff.mp holds
    obtain ⟨text, fits⟩ := received
    obtain rfl := of_decide_eq_true bytes
    exact ⟨asked, rfl, sampleRequests_unambiguous asked member, of_decide_eq_true next⟩

/-- Another client sets a track up in between. -/
def sampleConversation : List Event :=
  [.accept 5, .readable 5 sampleOptions.received emptySurroundings, .accept 6,
    .readable 5 sampleDescribe.received emptySurroundings,
    .readable 5 sampleFirst.received emptySurroundings,
    .readable 6 (receivedLines ["SETUP rtsp://h/track0 RTSP/1.0", "CSeq: 3"])
      { emptySurroundings with randomBytes := Vector.replicate 16 1 },
    .readable 5 sampleSecond.received emptySurroundings,
    .readable 5 samplePlay.received emptySurroundings]

theorem sampleConversation_asked :
    epollServer.Always (listen 5 sampleUrl.text) (.start sampleUrl.text) EpollServer.start
        sampleConversation (fun player now => sampleAsked player now.event = true) ∧
      ((epollServer.run EpollServer.start sampleConversation).foldl (listen 5 sampleUrl.text)
        (.start sampleUrl.text)).playing = true := by
  decide +kernel

theorem sampleConversation_fits : RunFits sampleConversation := by decide +kernel

theorem conversation_run_sample :
    (RunInArrays sampleConversation ∧
      epollServer.Always (listen 5 sampleUrl.text) (.start sampleUrl.text) EpollServer.start
        sampleConversation (Serviced 5)) ∧
      ((epollServer.run EpollServer.start sampleConversation).foldl (listen 5 sampleUrl.text)
        (.start sampleUrl.text)).playing = true :=
  ⟨conversation_run 5 ⟨⟨0x68, ascii ":8554/x", by decide, by decide⟩, by decide⟩
    sampleConversation (fun entry member =>
      follows_of_sampleAsked (sampleConversation_asked.1 entry member)) sampleConversation_fits,
    sampleConversation_asked.2⟩

end Sample

end FzServer.Handshake
