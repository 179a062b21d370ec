import FzServer.Proof.Session.SessionView
import FzServer.Proof.Streaming.AudioFile
import FzServer.Proof.Streaming.Threads

/-
This file compares the tracks that a playback streams with the tracks that were set up.
-/

namespace FzServer.Streaming

open Foundation Sessions Rtsp Rtp Server Media Packetisation

/-- The history holds the tracks for which a SETUP request was answered on each session. -/
abbrev SetUpTracks := List UInt8 → TrackName → Bool

def SetUpTracks.none : SetUpTracks := fun _ _ => false

def SetUpTracks.add (history : SetUpTracks) (session : List UInt8) (track : TrackName) :
    SetUpTracks :=
  Function.update history session (Function.update (history session) track true)

/-- A first track is set up on its new session, and a second track on that of the descriptor. -/
def setUp (history : SetUpTracks) (request : Request) (accepted : Bool) : SetUpTracks :=
  if accepted = true ∧ request.creates then history.add request.created .video
  else if accepted = true ∧ request.attaches then history.add request.attached .audio
  else history

/-- The video leaves on channel 0 and the audio leaves on channel 2. -/
def channelOf : TrackName → UInt8
  | .video => 0x00
  | .audio => 0x02

/-- Each packet of each playback belongs to one of the tracks. -/
def StreamsOnly (tracks : TrackName → Bool) : Prop :=
  ∀ source run merged, sendH264AacOverTcp source = some run → run.Merges merged →
    ∀ buffer ∈ merged, ∃ track, tracks track = true ∧ OnChannel (channelOf track) buffer

/-- An accepted PLAY request streams only tracks that were set up on its session. -/
def StreamsSetUp (history : SetUpTracks) (now : ServerStage) : Prop :=
  ∀ request, requestOf now.before now.event = some request → request.method = some .PLAY →
    now.output.media = true → StreamsOnly (history request.named)

/-- Each thread of each playback sends its track on its own channel. -/
def StreamsOnChannels : Prop :=
  ∀ source run, sendH264AacOverTcp source = some run →
    (∀ buffer ∈ run.video.sender.socket.sent, OnChannel (channelOf .video) buffer) ∧
    ∀ buffer ∈ run.audio.sender.socket.sent, OnChannel (channelOf .audio) buffer

/-- The video was set up, and the audio is streamed even when it was not. -/
def StreamsBoth (history : SetUpTracks) (now : ServerStage) : Prop :=
  ∀ request, requestOf now.before now.event = some request → request.method = some .PLAY →
    now.output.media = true →
      history request.named .video = true ∧ StreamsOnChannels ∧
        (StreamsOnly (history request.named) ↔ history request.named .audio = true)

theorem streamsOnChannels : StreamsOnChannels := by
  intro source run ran
  obtain ⟨other, same, onAudio, onVideo⟩ := sendH264AacOverTcp_channels source
  obtain rfl := Option.some.inj (same.symm.trans ran)
  exact ⟨onVideo, onAudio⟩

/-- A file with one frame gives the audio thread one packet. -/
theorem audio_packet : ∃ source run buffer, sendH264AacOverTcp source = some run ∧
    buffer ∈ run.audio.sender.socket.sent ∧ OnChannel 0x02 buffer := by
  let frames := [mixedFrames[1]]
  let source : MediaSource :=
    { aacFile := some (encodeAudio frames), aacHeap := fun _ => 0,
      aacPacketHeap := wholeSender.rtpPacket, aacResults := fun _ _ => 0, h264File := none,
      h264Heap := fun _ => 0, h264PacketHeap := wholeSender.rtpPacket,
      h264Results := fun _ _ => 0 }
  obtain ⟨audio, packets, audioRan, _, logs, units⟩ := sendAacOverTcp_logs frames source.aacHeap
    source.aacPacketHeap ⟨source.aacResults, []⟩ fun _ _ => Int.le_refl 0
  have count := congrArg List.length units
  rw [List.length_map, List.length_map] at count
  obtain ⟨packet, rfl⟩ := List.length_eq_one_iff.mp count
  obtain ⟨run, ran, onAudio, _⟩ := sendH264AacOverTcp_channels source
  have both := ran
  rw [sendH264AacOverTcp, show sendAacOverTcp source.aacFile source.aacHeap source.aacPacketHeap
    ⟨source.aacResults, []⟩ = some audio from audioRan, Option.bind_some] at both
  obtain ⟨video, _, rfl⟩ := Option.map_eq_some_iff.mp both
  have member : tcpFrame 0x02 packet ∈ audio.sender.socket.sent := by simp [logs.sent]
  exact ⟨source, _, _, ran, member, onAudio _ member⟩

/-- The packets of a playback all belong to set up tracks exactly when the audio was set up. -/
theorem streamsOnly_iff {tracks : TrackName → Bool} (video : tracks .video = true) :
    StreamsOnly tracks ↔ tracks .audio = true := by
  constructor
  · intro only
    obtain ⟨source, run, buffer, ran, member, onAudio⟩ := audio_packet
    -- The descriptor may take all the audio before the video.
    have merges := Interleaving.append run.audio.sender.socket.sent run.video.sender.socket.sent
    obtain ⟨track, setUp, onTrack⟩ := only source run _ ran merges buffer
      (List.mem_append_left _ member)
    cases track with
    | audio => exact setUp
    | video =>
        have clash := onAudio.symm.trans onTrack
        exact absurd clash (by decide)
  · intro audio source run merged ran merges buffer member
    obtain ⟨onVideo, onAudio⟩ := streamsOnChannels source run ran
    rcases (Interleaving.mem_iff merges buffer).mp member with inAudio | inVideo
    · exact ⟨.audio, audio, onAudio buffer inAudio⟩
    · exact ⟨.video, video, onVideo buffer inVideo⟩

/-- Every session that the tables hold had its video track set up. -/
def VideoSetUp (history : SetUpTracks) (view : SessionView) : Prop :=
  ∀ session, view.states session ≠ none → history session .video = true

section History

variable (history : SetUpTracks) (session : List UInt8) (track : TrackName)

@[simp] theorem add_same : history.add session track session track = true := by
  simp [SetUpTracks.add]

/-- No track is taken away. -/
theorem add_keeps {other : List UInt8} {kept : TrackName} (held : history other kept = true) :
    history.add session track other kept = true := by
  by_cases same : other = session
  · subst same
    by_cases named : kept = track
    · rw [named, add_same]
    · simpa [SetUpTracks.add, Function.update_of_ne named] using held
  · simpa [SetUpTracks.add, Function.update_of_ne same] using held

variable {history}

theorem setUp_failed (request : Request) : setUp history request false = history := by
  simp [setUp]

theorem setUp_keeps {other : List UInt8} {kept : TrackName} (request : Request) (accepted : Bool)
    (held : history other kept = true) : setUp history request accepted other kept = true := by
  rw [setUp]
  split_ifs
  · exact add_keeps history _ _ held
  · exact add_keeps history _ _ held
  · exact held

end History

/-- A session that an answer makes gets its video track. -/
theorem answers_videoSetUp {history : SetUpTracks} {request : Request} {before after : SessionView}
    {res : Int} {session : List UInt8} (answers : Answers request before res session after)
    (known : VideoSetUp history before) :
    VideoSetUp (setUp history request (decide (res = 0))) after := by
  intro other stored
  by_cases already : before.states other ≠ none
  · exact setUp_keeps request _ (known other already)
  · rw [not_not] at already
    cases answers with
    | plain => exact absurd already stored
    | refused => exact absurd already stored
    | plays play state found =>
        by_cases same : other = request.named
        · rw [same, found] at already
          exact absurd already (Option.some_ne_none state)
        · simp only [Function.update_of_ne same] at stored
          exact absurd already stored
    | creates creates =>
        by_cases same : other = request.created
        · rw [same, setUp, if_pos ⟨decide_eq_true rfl, creates⟩, add_same]
        · simp only [Function.update_of_ne same] at stored
          exact absurd already stored
    | attaches => exact absurd already stored

section Stage

variable {history : SetUpTracks} {server : EpollServer} {event : Event}

/-- Every stage keeps the video of each session set up. -/
theorem stage_videoSetUp (known : VideoSetUp history server.view) :
    VideoSetUp (marked setUp history (epollServer.stage server event))
      (epollServer.stage server event).after.view := by
  cases found : requestOf server event with
  | none =>
      have same : marked setUp history (epollServer.stage server event) = history := by
        rcases follow_silent found with same | ⟨clientFd, same⟩
        · exact same
        · exact same
      rw [same, stage_silent_view found]
      exact known
  | some request =>
      cases stage_serves found with
      | lost _ _ same silent =>
          rw [marked, follow_request found, silent, same, answered200, Option.any_none, setUp_failed]
          exact known
      | answered reply session answers sent _ _ =>
          rw [marked, follow_request found, answered200, sent, Option.any_some]
          exact answers_videoSetUp answers known

/-- A PLAY request starts media only for a session that the tables hold. -/
theorem media_known {request : Request} (found : requestOf server event = some request)
    (play : request.method = some .PLAY)
    (media : (epollServer.stage server event).output.media = true) :
    server.view.states request.named ≠ none := by
  cases stage_serves found with
  | lost _ _ _ silent =>
      rw [silent] at media
      exact absurd media (by decide)
  | answered reply session answers sent starts _ =>
      obtain ⟨_, playing⟩ := starts.mp media
      rw [Machine.stage_before] at answers
      generalize (epollServer.stage server event).after.view = after at answers playing
      generalize reply.res = res at answers
      cases answers with
      | plain _ noPlay => exact absurd play noPlay
      | refused => simp [playing]
      | plays _ state stored => simp [stored]
      | creates creates => exact absurd creates (request.not_creates_of_play play)
      | attaches attaches => exact absurd attaches (request.not_attaches_of_play play)

end Stage

/-- A playback streams the set up video and the audio, in every run. -/
theorem streamsBoth_run (events : List Event) :
    epollServer.Always (marked setUp) SetUpTracks.none EpollServer.start events StreamsBoth := by
  have free : epollServer.Always (marked setUp) SetUpTracks.none EpollServer.start events
      fun _ _ => True := fun _ _ => trivial
  refine Machine.always_of_invariant (fun history server => VideoSetUp history server.view)
    ?_ (fun _ _ _ known _ _ => stage_videoSetUp known) events _ _ (fun _ stored => absurd rfl stored)
    free
  intro history server event known _ request found play media
  have video := known request.named (media_known found play media)
  exact ⟨video, streamsOnChannels, streamsOnly_iff video⟩

/-- The session of the sample requests. -/
def sampleSession : String := "Session: 00000000000000000000000000000000"

/-- A client that sets up the video alone gets the audio too. -/
theorem streamsSetUp_fails :
    ¬epollServer.Always (marked setUp) SetUpTracks.none EpollServer.start
      [.accept 5, sampleRequest 5 ["SETUP rtsp://h/track0 RTSP/1.0", "CSeq: 3"],
        sampleRequest 5 ["PLAY rtsp://h/ RTSP/1.0", "CSeq: 4", sampleSession]] StreamsSetUp := by
  intro always
  have third := always _ (List.mem_cons_of_mem _ (List.mem_cons_of_mem _ List.mem_cons_self))
  have only := third _ rfl (by decide +kernel) (by decide +kernel)
  have audio := (streamsOnly_iff (by decide +kernel)).mp only
  exact absurd audio (by decide +kernel)

end FzServer.Streaming
