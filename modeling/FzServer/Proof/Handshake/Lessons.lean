import FzServer.Proof.Handshake.ServerTracks
import FzServer.Proof.Parsing.SessionHeader

/-
This file says what the player learns from each reply of the server.
-/

namespace FzServer.Handshake

open Foundation Sessions Rtsp Server Parsing Replies Packetisation

/-- A reply to SETUP names the session and the channels of the track. -/
structure Grants (message : Message) (number : Int) (session : List UInt8)
    (pair : Nat × Nat) : Prop where
  status : ascii "RTSP/1.0 200" <+: statusLine message
  number : responseNumber message = some number
  session : message.field (ascii "Session") = some session
  channels : (message.field (ascii "Transport")).bind interleavedPair = some pair

namespace Player

/-- The player goes through these states, one for each reply. -/
def offered (url : List UInt8) : Player := { start url with sent := 1 }

def described (url : List UInt8) : Player :=
  { start url with sent := 2, base := url, waiting := [videoTrack, audioTrack] }

def oneTrack (url session : List UInt8) : Player where
  url := url
  sent := 3
  base := url
  waiting := [audioTrack]
  channels := [(videoTrack, 0)]
  session := session
  playing := false

def bothTracks (url session : List UInt8) : Player :=
  { oneTrack url session with
    sent := 4
    waiting := []
    channels := [(videoTrack, 0), (audioTrack, 2)] }

def satisfied (url session : List UInt8) : Player :=
  { bothTracks url session with sent := 5, playing := true }

variable {url session : List UInt8} {message : Message}

theorem learn_options : (start url).learn (optionsReply 1) = some (offered url) := by
  have status : ascii "RTSP/1.0 200" <+: statusLine (optionsReply 1) := by decide
  have number : responseNumber (optionsReply 1) = some 1 := responseNumber_replyMessage _ _ _
  have methods : (optionsReply 1).field (ascii "Public") =
      some (ascii "OPTIONS, DESCRIBE, SETUP, PLAY, PAUSE, TEARDOWN") := by decide
  have offer : offers (ascii "OPTIONS, DESCRIBE, SETUP, PLAY, PAUSE, TEARDOWN") = true := by decide
  rw [learn, if_pos ⟨status, number⟩]
  simp only [start, learnMethods, methods, Option.bind_some, if_pos offer]
  rfl

/-- The base is the url that the player asked for. -/
theorem learn_describe (host : HostUrl url) (solid : Solid url) (time : Int)
    (localIp : List UInt8) :
    (offered url).learn (describeReply time localIp 2 url) = some (described url) := by
  let sdp := sessionDescription time (scanLocalIp url localIp)
  have status : ascii "RTSP/1.0 200" <+: statusLine (describeReply time localIp 2 url) :=
    show ascii "RTSP/1.0 200" <+: ascii "RTSP/1.0 200 OK" by decide
  have number : responseNumber (describeReply time localIp 2 url) = some 2 :=
    responseNumber_replyMessage _ _ _
  have plain : ∀ field ∈ [(ascii "Content-Base", url),
      (ascii "Content-type", ascii "application/sdp"),
      (ascii "Content-length", decimal sdp.length)], PlainField field := by
    have digits := decimal_unbroken sdp.length
    simpa [PlainField, ascii, digits] using solid.unbroken.1
  have fields (name : List UInt8) (other : lowercase name ≠ lowercase (ascii "CSeq")) :=
    fieldOf_replyMessage (ascii "RTSP/1.0 200 OK") 2 sdp name other plain
  have type : (describeReply time localIp 2 url).field (ascii "Content-type") =
      some (ascii "application/sdp") := by
    rw [describeReply, fields _ (by decide)]
    simp [ascii, lowercase, isspace]
  have base : (describeReply time localIp 2 url).field (ascii "Content-Base") = some url := by
    rw [describeReply, fields _ (by decide)]
    simp [ascii, lowercase, solid.dropWhile]
  have tracks : (Description.ofText (describeReply time localIp 2 url).body).tracks =
      some [videoTrack, audioTrack] :=
    tracks_sessionDescription time (scanLocalIp_unbroken host solid.unbroken.1 localIp)
  rw [learn, if_pos ⟨status, number⟩]
  simp only [offered, start, learnDescription, if_pos type, base, Option.bind_some, tracks,
    Option.map_some]
  rfl

theorem learn_first (grants : Grants message 3 session (0, 1)) :
    (described url).learn message = some (oneTrack url session) := by
  rw [learn, if_pos ⟨grants.status, grants.number⟩]
  simp only [described, start, learnTrack, grants.session, grants.channels, Option.bind_some]
  rfl

theorem learn_second (grants : Grants message 4 session (2, 3)) :
    (oneTrack url session).learn message = some (bothTracks url session) := by
  rw [learn, if_pos ⟨grants.status, grants.number⟩]
  simp only [oneTrack, learnTrack, grants.session, grants.channels, Option.bind_some, or_true,
    and_true, if_true]
  rfl

/-- The name of a session has no semicolon. -/
theorem learn_play (randomBytes : Vector UInt8 16) :
    (bothTracks url (generateSessionId randomBytes)).learn
        (playReply 5 (generateSessionId randomBytes)) =
      some (satisfied url (generateSessionId randomBytes)) := by
  have solid := generateSessionId_solid randomBytes
  generalize made : generateSessionId randomBytes = session at solid
  have status : ascii "RTSP/1.0 200" <+: statusLine (playReply 5 session) :=
    show ascii "RTSP/1.0 200" <+: okLine by decide
  have number : responseNumber (playReply 5 session) = some 5 := responseNumber_replyMessage _ _ _
  have plain : ∀ field ∈ [(ascii "Range", ascii "npt=0.000-"),
      (ascii "Session", session ++ ascii "; timeout=10")], PlainField field := by
    simpa [PlainField, ascii] using solid.unbroken.1
  have named : (playReply 5 session).field (ascii "Session") =
      some (session ++ ascii "; timeout=10") := by
    rw [playReply, fieldOf_replyMessage okLine 5 [] (ascii "Session") (by decide) plain]
    have nonempty : session ≠ [] := made ▸ generateSessionId_ne_nil randomBytes
    obtain ⟨first, rest, rfl⟩ := List.exists_cons_of_ne_nil nonempty
    have front := solid first List.mem_cons_self
    simp [ascii, lowercase, front]
  have whole : (session ++ ascii "; timeout=10").takeWhile (· ≠ 0x3B) = session := by
    have inside : ∀ character ∈ session, decide (character ≠ 0x3B) = true := by
      intro character member
      have digit := isHexDigit_generateSessionId randomBytes character (made ▸ member)
      rw [decide_eq_true_iff]
      rintro rfl
      exact absurd digit (by decide)
    rw [List.takeWhile_append_of_pos inside]
    simp [ascii]
  rw [learn, if_pos ⟨status, number⟩]
  simp only [bothTracks, oneTrack, learnPlaying, named, Option.bind_some, whole, if_true]
  rfl

end Player

end FzServer.Handshake
