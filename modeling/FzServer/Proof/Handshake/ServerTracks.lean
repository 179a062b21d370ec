import FzServer.Proof.Handshake.Player

/-
This file reads the description of the server as the player does.
-/

namespace FzServer.Handshake

open Foundation Sessions Rtsp Server Parsing Replies Packetisation

def videoTrack : MediaTrack where
  kind := ascii "video"
  payloadType := 96
  encoding := ascii "H264/90000"
  control := ascii "track0"

def audioTrack : MediaTrack where
  kind := ascii "audio"
  payloadType := 97
  encoding := ascii "mpeg4-generic/44100/2"
  control := ascii "track1"

def videoSection : MediaSection where
  media := ascii "video 0 RTP/AVP 96"
  lines := [ascii "a=rtpmap:96 H264/90000", ascii "a=control:track0"]

def audioSection : MediaSection where
  media := ascii "audio 0 RTP/AVP 97"
  lines := [ascii "a=rtpmap:97 mpeg4-generic/44100/2",
    ascii "a=fmtp:97 profile-level-id=1;mode=AAC-hbr;sizelength=13;indexlength=3;" ++
      ascii "indexdeltalength=3;config=1210;",
    ascii "a=control:track1"]

/-- The handler writes this description. -/
def serverDescription (time : Int) (localIp : List UInt8) : Description where
  lines := [ascii "v=0", ascii "o=- 9" ++ decimal time ++ ascii " 1 IN IP4 " ++ localIp,
    ascii "t=0 0", ascii "a=control:*"]
  sections := [videoSection, audioSection]

theorem sessionDescription_encode (time : Int) (localIp : List UInt8) :
    sessionDescription time localIp = (serverDescription time localIp).encode := by
  have behind : crlf ++ (ascii "t=0 0\r\n" ++ (ascii "a=control:*\r\n" ++
      (ascii "m=video 0 RTP/AVP 96\r\n" ++ (ascii "a=rtpmap:96 H264/90000\r\n" ++
      (ascii "a=control:track0\r\n" ++ (ascii "m=audio 0 RTP/AVP 97\r\n" ++
      (ascii "a=rtpmap:97 mpeg4-generic/44100/2\r\n" ++
      (ascii "a=fmtp:97 profile-level-id=1;mode=AAC-hbr;sizelength=13;indexlength=3;" ++
      (ascii "indexdeltalength=3;config=1210;\r\n" ++ ascii "a=control:track1\r\n"))))))))) =
      crlf ++ encodeLines ([ascii "t=0 0", ascii "a=control:*"] ++
        [videoSection, audioSection].flatMap fun section_ =>
          (ascii "m=" ++ section_.media) :: section_.lines) := by
    decide +kernel
  have front : ascii "v=0\r\n" = ascii "v=0" ++ crlf := by decide
  simp only [sessionDescription, List.append_assoc, behind, front]
  simp [serverDescription, Description.encode, Description.allLines, encodeLines, crlf]

/-- Only the address of the client could break a line. -/
theorem serverDescription_valid (time : Int) {localIp : List UInt8} (unbroken : 0x0A ∉ localIp) :
    (serverDescription time localIp).Valid := by
  have number := decimal_unbroken time
  constructor
  · simp only [serverDescription, videoSection, audioSection, Description.allLines,
      List.flatMap_cons, List.flatMap_nil, List.append_nil, List.cons_append, List.nil_append,
      List.forall_mem_cons]
    have origin : (0x0A : UInt8) ∉
        ascii "o=- 9" ++ decimal time ++ ascii " 1 IN IP4 " ++ localIp := by
      have front : (0x0A : UInt8) ∉ ascii "o=- 9" := by decide
      have middle : (0x0A : UInt8) ∉ ascii " 1 IN IP4 " := by decide
      simp only [List.mem_append, not_or]
      exact ⟨⟨⟨front, number⟩, middle⟩, unbroken⟩
    refine ⟨by decide, origin, by decide, by decide, by decide, by decide, by decide, by decide,
      by decide, by decide, by decide, by simp⟩
  · simp [serverDescription, ascii]
  · simp [serverDescription, videoSection, audioSection, ascii]

/-- The player finds the two tracks, whatever the address and the time. -/
theorem tracks_sessionDescription (time : Int) {localIp : List UInt8} (unbroken : 0x0A ∉ localIp) :
    (Description.ofText (sessionDescription time localIp)).tracks =
      some [videoTrack, audioTrack] := by
  rw [sessionDescription_encode, Description.ofText_encode (serverDescription_valid time unbroken)]
  have tracks : [videoSection, audioSection].mapM MediaSection.track =
      some [videoTrack, audioTrack] := by decide
  exact tracks

/-- The host stands in the url. -/
theorem scanLocalIp_unbroken {url : List UInt8} (host : HostUrl url) (unbroken : 0x0A ∉ url)
    (localIp : List UInt8) : 0x0A ∉ scanLocalIp url localIp := by
  obtain ⟨first, rest, shape, noColon⟩ := host.host
  have named : (first :: rest).takeWhile (· ≠ 0x3A) ≠ [] := by
    simp [noColon]
  rw [shape, scanLocalIp, scanLiteral_append]
  dsimp only
  rw [if_neg named]
  intro broken
  rw [shape] at unbroken
  exact unbroken (List.mem_append_right _ ((List.takeWhile_sublist _).subset broken))

/-- The last component of the url of a track is its control. -/
theorem lastComponent_controlUrl {base control : List UInt8} (path : 0x3F ∉ base ∧ 0x23 ∉ base)
    (plain : ∀ character ∈ control, character ≠ 0x3F ∧ character ≠ 0x23 ∧ character ≠ 0x2F) :
    lastComponent (controlUrl base control) = control := by
  have ends {front : List UInt8} (frontPath : 0x3F ∉ front ∧ 0x23 ∉ front)
      (slash : front.getLast? = some 0x2F) : lastComponent (front ++ control) = control := by
    have whole : (front ++ control).takeWhile
        (fun character => character ≠ 0x3F ∧ character ≠ 0x23) = front ++ control := by
      rw [List.takeWhile_eq_self_iff]
      intro character member
      rw [decide_eq_true_iff]
      rcases List.mem_append.mp member with inFront | inControl
      · exact ⟨fun query => frontPath.1 (query ▸ inFront), fun hash => frontPath.2 (hash ▸ inFront)⟩
      · exact ⟨(plain character inControl).1, (plain character inControl).2.1⟩
    obtain ⟨start, rfl⟩ := List.getLast?_eq_some_iff.mp slash
    have kept : control.reverse.takeWhile (· ≠ 0x2F) = control.reverse := by
      rw [List.takeWhile_eq_self_iff]
      intro character member
      exact decide_eq_true (plain character (List.mem_reverse.mp member)).2.2
    rw [lastComponent, whole, List.rtakeWhile, List.reverse_append, List.reverse_append,
      List.takeWhile_append, kept, if_pos rfl]
    simp
  rw [controlUrl]
  split_ifs with slash
  · exact ends path slash
  · have shape : base ++ 0x2F :: control = (base ++ [0x2F]) ++ control := by simp
    rw [shape]
    exact ends (by simpa using path) (by simp)

end FzServer.Handshake
