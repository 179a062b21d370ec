import FzServer.Foundation.SessionDescription
import FzServer.Proof.Parsing.Faithful
import FzServer.Proof.Reply.ConnectionStream

/-
This file gives a player that learns from the replies of the server what it asks for next.
-/

namespace FzServer.Handshake

open Foundation Sessions Rtsp Aac Server Parsing Replies Packetisation Streaming

/-- The player knows what the replies have told it. -/
structure Player where
  url : List UInt8
  sent : Nat
  base : List UInt8
  waiting : List MediaTrack
  channels : List (MediaTrack × Nat)
  session : List UInt8
  playing : Bool
  deriving DecidableEq

/-- This is a request before the player writes it down. -/
structure Query where
  method : Method
  url : List UInt8
  cseq : Nat
  session : Option (List UInt8)
  deriving DecidableEq

/-- The path of a track stands behind the base. -/
def controlUrl (base control : List UInt8) : List UInt8 :=
  if base.getLast? = some 0x2F then base ++ control else base ++ 0x2F :: control

/-- The server must offer what the player is going to use. -/
def offers (methods : List UInt8) : Bool :=
  [Method.DESCRIBE, .SETUP, .PLAY].all fun method =>
    ((methods.splitOn 0x2C).map (List.dropWhile isspace)).contains method.text

namespace Player

def start (url : List UInt8) : Player := ⟨url, 0, [], [], [], [], false⟩

variable (player : Player) (message : Message)

/-- Once there is a session every request names it. -/
def named : Option (List UInt8) := if player.session = [] then none else some player.session

/-- The player numbers its requests from one and asks for each track before it plays. -/
def next : Option Query :=
  match player.sent with
  | 0 => some ⟨.OPTIONS, player.url, 1, none⟩
  | 1 => some ⟨.DESCRIBE, player.url, 2, none⟩
  | answered + 2 =>
      match player.waiting with
      | track :: _ =>
          some ⟨.SETUP, controlUrl player.base track.control, answered + 3, player.named⟩
      | [] =>
          if player.playing then none else some ⟨.PLAY, player.base, answered + 3, player.named⟩

def learnMethods : Option Player :=
  (message.field (ascii "Public")).bind fun methods =>
    if offers methods then some player else none

def learnDescription : Option Player :=
  if message.field (ascii "Content-type") = some (ascii "application/sdp") then
    (message.field (ascii "Content-Base")).bind fun base =>
      (Description.ofText message.body).tracks.map fun waiting => { player with base, waiting }
  else none

/-- All tracks share one session, and the channel behind that of the track is its own too. -/
def learnTrack (track : MediaTrack) (waiting : List MediaTrack) : Option Player :=
  (message.field (ascii "Session")).bind fun session =>
    ((message.field (ascii "Transport")).bind interleavedPair).bind fun pair =>
      if pair.2 = pair.1 + 1 ∧ (player.session = [] ∨ player.session = session) then
        some { player with waiting, session, channels := player.channels ++ [(track, pair.1)] }
      else none

/-- A parameter may follow the session. -/
def learnPlaying : Option Player :=
  (message.field (ascii "Session")).bind fun session =>
    if session.takeWhile (· ≠ 0x3B) = player.session then some { player with playing := true }
    else none

/-- The reply must be a success with the number of the request. -/
def learn : Option Player :=
  if ascii "RTSP/1.0 200" <+: statusLine message ∧
      responseNumber message = some ((player.sent : Int) + 1) then
    let counted := { player with sent := player.sent + 1 }
    match player.sent with
    | 0 => counted.learnMethods message
    | 1 => counted.learnDescription message
    | _ =>
        match player.waiting with
        | track :: waiting => counted.learnTrack message track waiting
        | [] => counted.learnPlaying message
  else none

/-- The channel and the payload type tell the track of a packet. -/
def trackOf (packet : UInt8 × List UInt8) : Option MediaTrack :=
  (decodeRtp packet.2).bind fun read =>
    (player.channels.find? fun entry =>
      entry.2 = packet.1.toNat ∧ entry.1.payloadType = read.1.payloadType).map Prod.fst

/-- Bytes that are not a single response teach nothing. -/
def hear (output : Output) : Player :=
  (output.reply.bind fun reply =>
    (messageCodec.decode reply.text).bind fun read =>
      if read.2 = [] then player.learn read.1 else none).getD player

end Player

/-- The player of a descriptor hears its replies and starts again with each connection. -/
def listen (clientFd : Nat) (url : List UInt8) : Player → ServerStage → Player :=
  follow
    (fun player request output =>
      if request.clientFd = clientFd then player.hear output else player)
    (fun player opened => if opened = clientFd then .start url else player)

/-- What arrives on the descriptor is the next request of the player, with any further headers. -/
def Follows (clientFd : Nat) (player : Player) (now : ServerStage) : Prop :=
  ∀ received surroundings, now.event = .readable clientFd received surroundings →
    now.before.isOpen clientFd = true → received.bytes ≠ [] →
    ∃ request : RtspRequest, received = request.received ∧ request.Unambiguous ∧
      player.next = some ⟨request.method, request.url.text, request.cseq, request.session⟩

/-- The stream of a playback falls apart into the packets of its two threads. -/
structure Demultiplexes (player : Player) (playback : Playback) : Prop where
  inBounds : MediaInBounds rtpSendAACFrameTcp playback.source playback.run
  decodes : interleavedCodec.decodeAll playback.merged.flatten = some playback.packets
  tracks : ∃ video audio, player.channels.map Prod.fst = [video, audio] ∧
    (video.kind = ascii "video" ∧ video.encoding = ascii "H264/90000") ∧
    (audio.kind = ascii "audio" ∧ audio.encoding = ascii "mpeg4-generic/44100/2") ∧
    (playback.packets.filter fun packet => player.trackOf packet = some video).map Prod.snd =
      playback.run.video.sender.socket.sent.map (List.drop 4) ∧
    (playback.packets.filter fun packet => player.trackOf packet = some audio).map Prod.snd =
      playback.run.audio.sender.socket.sent.map (List.drop 4)

/-- The player learns from each reply and plays behind the fifth, and it gets what it plays. -/
def Serviced (clientFd : Nat) (player : Player) (now : ServerStage) : Prop :=
  ∀ request, requestOf now.before now.event = some request → request.clientFd = clientFd →
    ∃ reply message learned, now.output.reply = some reply ∧
      messageCodec.decode reply.text = some (message, []) ∧ player.learn message = some learned ∧
      now.output.exit ≠ .nullSession ∧ learned.sent = player.sent + 1 ∧
      (learned.playing = true ↔ learned.sent = 5) ∧
      (learned.playing = true → now.output.media = true ∧
        ∀ playback : Playback, Demultiplexes learned playback)

/-- The url names a host and ends with its path. -/
structure HostUrl (url : List UInt8) : Prop where
  host : ∃ first rest, url = ascii "rtsp://" ++ first :: rest ∧ first ≠ 0x3A
  path : 0x3F ∉ url ∧ 0x23 ∉ url

end FzServer.Handshake
