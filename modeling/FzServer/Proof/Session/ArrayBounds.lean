import FzServer.Foundation.Decimal
import FzServer.Proof.Parsing.Bounds
import FzServer.Proof.Session.SessionView

/-
This file says which requests overflow no array on the stack of the handler.
-/

namespace FzServer.Server

open Foundation Sessions Rtsp Parsing

/-- A receive call returned these bytes. -/
def Event.received : Event → Option Received
  | .readable _ received _ => some received
  | _ => none

/-- The text ends inside the buffer, its words fit their arrays, and so does a description. -/
structure Fits (event : Event) (request : Request) : Prop where
  terminated : ∀ received ∈ event.received, Terminated received
  words : ∀ received ∈ event.received, ∀ line ∈ bufferLines received, LineFits line
  description : request.method = some .DESCRIBE → request.scanned.url.length < urlSize ∧
    (sessionDescription request.surroundings.time (scanLocalIp request.scanned.url
      (cstring request.surroundings.localIp))).length < sdpSize

def EachFits (now : ServerStage) : Prop :=
  ∀ request ∈ requestOf now.before now.event, Fits now.event request

/-- The handler with the sizes of its arrays does what the stage records. -/
def InArrays (now : ServerStage) : Prop :=
  now.before.checkedStep now.event = some (now.after, now.output)

/-- Every request of the run fits its arrays. -/
def RunFits (events : List Event) : Prop :=
  ∀ now ∈ epollServer.run EpollServer.start events, EachFits now

def RunInArrays (events : List Event) : Prop :=
  ∀ now ∈ epollServer.run EpollServer.start events, InArrays now

instance (received : Received) : Decidable (Terminated received) :=
  inferInstanceAs (Decidable (_ ∨ _))

instance (event : Event) (request : Request) : Decidable (Fits event request) :=
  decidable_of_iff
    ((∀ received ∈ event.received, Terminated received) ∧
      (∀ received ∈ event.received, ∀ line ∈ bufferLines received, LineFits line) ∧
      (request.method = some .DESCRIBE → request.scanned.url.length < urlSize ∧
        (sessionDescription request.surroundings.time (scanLocalIp request.scanned.url
          (cstring request.surroundings.localIp))).length < sdpSize))
    ⟨fun all => ⟨all.1, all.2.1, all.2.2⟩, fun fits => ⟨fits.1, fits.2, fits.3⟩⟩

instance (now : ServerStage) : Decidable (EachFits now) :=
  inferInstanceAs (Decidable (∀ request ∈ requestOf now.before now.event, _))

instance (events : List Event) : Decidable (RunFits events) :=
  inferInstanceAs (Decidable (∀ now ∈ epollServer.run EpollServer.start events, _))

/-- The host of a url that fits its array fits the smaller one. -/
theorem host_fits {url rest : List UInt8} (fits : url.length < urlSize)
    (scheme : scanLiteral (ascii "rtsp://") url = some rest) :
    (rest.takeWhile (· ≠ 0x3A)).length < localIpSize := by
  rw [scanLiteral] at scheme
  split_ifs at scheme
  obtain rfl := Option.some.inj scheme
  have whole := (List.takeWhile_prefix (p := (· ≠ 0x3A))
    (l := url.drop (ascii "rtsp://").length)).length_le
  have less := List.length_drop (i := (ascii "rtsp://").length) (l := url)
  have sizes : urlSize = localIpSize := rfl
  omega

theorem checkedLocalIp_eq {url : List UInt8} (fits : url.length < urlSize)
    (localIp : List UInt8) : checkedLocalIp url localIp = some (scanLocalIp url localIp) := by
  rw [checkedLocalIp, scanLocalIp]
  cases scheme : scanLiteral (ascii "rtsp://") url with
  | none => rfl
  | some rest =>
      dsimp only
      split_ifs
      · rfl
      · exact if_pos (host_fits fits scheme)

/-- A url that names no host leaves the old bytes, and these may be longer than their array. -/
theorem scanLocalIp_fits {url localIp : List UInt8} (fits : url.length < urlSize)
    (host : localIp.length < localIpSize ∨ scanLocalIp url [] ≠ []) :
    (scanLocalIp url localIp).length < localIpSize := by
  rw [scanLocalIp] at host ⊢
  cases scheme : scanLiteral (ascii "rtsp://") url with
  | none =>
      rw [scheme] at host
      exact host.resolve_right fun named => named rfl
  | some rest =>
      rw [scheme] at host
      dsimp only at host ⊢
      split_ifs at host ⊢ with empty
      · exact host.resolve_right fun named => named rfl
      · exact host_fits fits scheme

/-- The array of the description has room for each host and for each time of a long clock. -/
theorem sessionDescription_fits {host : List UInt8} (short : host.length < localIpSize)
    {time : Int} (clock : time.natAbs < 0x8000000000000000) :
    (sessionDescription time host).length < sdpSize := by
  have digits : (decimal time).length ≤ 20 :=
    decimal_length (Nat.lt_of_lt_of_le clock (by decide))
  have bound : localIpSize = 100 := rfl
  have lines : (sessionDescription time host).length =
      284 + (decimal time).length + host.length := by
    simp only [sessionDescription, List.length_append]
    simp [ascii, crlf]
    omega
  have room : sdpSize = 500 := rfl
  omega

theorem urlOn_fits {line url : List UInt8} (fits : LineFits line) (read : urlOn line = some url) :
    url.length < urlSize := by
  rw [urlOn] at read
  split_ifs at read with keyword
  obtain ⟨method, first, second⟩ := Option.bind_eq_some_iff.mp read
  obtain ⟨token, found, rfl⟩ := Option.map_eq_some_iff.mp second
  exact ((fits.1 keyword method first).2 token found).1

/-- The words of a request are enough where a DESCRIBE names a host, or its array is terminated. -/
theorem Fits.of_words {server : EpollServer} {clientFd : Nat} {received : Received}
    {surroundings : Surroundings} {request : Request}
    (found : requestOf server (.readable clientFd received surroundings) = some request)
    (terminated : Terminated received)
    (words : ∀ line ∈ bufferLines received, LineFits line)
    (clock : surroundings.time.natAbs < 0x8000000000000000)
    (describe : request.method = some .DESCRIBE → ∃ url ∈ lastRead urlOn (bufferLines received),
      (cstring surroundings.localIp).length < localIpSize ∨ scanLocalIp url [] ≠ []) :
    Fits (.readable clientFd received surroundings) request := by
  rw [requestOf] at found
  split_ifs at found
  obtain rfl := Option.some.inj found
  refine ⟨?_, ?_, fun asked => ?_⟩
  · rintro _ ⟨⟩
    exact terminated
  · rintro _ ⟨⟩
    exact words
  · obtain ⟨url, read, host⟩ := describe asked
    have lines := (parseRequest_read received.bytes surroundings
      (server.handler clientFd surroundings)).url
    rw [receivedText, bufferText_terminated surroundings terminated, ← bufferLines,
      Option.mem_def.mp read, Option.getD_some] at lines
    obtain ⟨line, member, given⟩ := List.mem_filterMap.mp (List.mem_of_getLast? read)
    have short := urlOn_fits (words line member) given
    rw [lines]
    exact ⟨short, sessionDescription_fits (scanLocalIp_fits short host) clock⟩

/-- A description of a host that fits is printed as it stands. -/
theorem checkedServe_eq {event : Event} {request : Request} (fits : Fits event request) :
    checkedServe request.surroundings request.scanned =
      some (Rtsp.serve request.surroundings request.scanned) := by
  rw [checkedServe]
  split_ifs with describe
  · obtain ⟨url, sdp⟩ := fits.description describe
    rw [checkedDESCRIBE, checkedLocalIp_eq url, Option.bind_some, storeToken_eq, if_pos sdp,
      Option.map_some, Option.map_some]
  · rfl

section Stage

variable {server : EpollServer} {clientFd : Nat} {received : Received}
  {surroundings : Surroundings}

theorem checkedHandleRequest_eq (connected : server.isOpen clientFd = true)
    (fits : EachFits (epollServer.stage server (.readable clientFd received surroundings))) :
    checkedHandleRequest received surroundings (server.handler clientFd surroundings) =
      some (handleRequest received surroundings (server.handler clientFd surroundings)) := by
  rw [checkedHandleRequest, handleRequest]
  split_ifs with ended
  · rfl
  · have now := fits _ (if_pos ⟨connected, ended⟩)
    have words : ∀ line ∈ bufferLines received, LineFits line := now.words received rfl
    rw [checkedRequest_terminated _ _ (now.terminated received rfl), if_pos words]
    exact checkedServe_eq now

end Stage

/-- A request that fits the arrays overflows none. -/
theorem stage_inArrays {server : EpollServer} {event : Event}
    (fits : EachFits (epollServer.stage server event)) :
    InArrays (epollServer.stage server event) := by
  cases event with
  | accept clientFd => rfl
  | epollError clientFd => rfl
  | readable clientFd received surroundings =>
      change server.checkedStep (.readable clientFd received surroundings) =
        some (server.step (.readable clientFd received surroundings))
      rw [EpollServer.checkedStep, EpollServer.step]
      by_cases closed : server.isOpen clientFd = false
      · rw [if_pos closed, if_pos closed]
      · rw [if_neg closed, if_neg closed,
          checkedHandleRequest_eq (Bool.not_eq_false _ ▸ closed) fits, Option.map_some]

theorem run_inArrays {events : List Event} (fits : RunFits events) : RunInArrays events := by
  intro now member
  have staged := epollServer.mem_run_stage member
  have inside := fits now member
  rw [staged] at inside ⊢
  exact stage_inArrays inside

end FzServer.Server
