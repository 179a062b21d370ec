import FzServer.Construction.Media.UdpRoutes
import FzServer.Proof.Reply.PortAnnouncement
import FzServer.Proof.Session.UdpControl

/-
This file compares what the sessions hold for their tracks with what the replies announced.
-/

namespace FzServer.Server

open Foundation Sessions Rtsp Utility Parsing Replies Media

/-- An accepted SETUP request gives a track of a session its ports and sockets. -/
structure Announcement where
  session : List UInt8
  second : Bool
  attr : RtspAttr

/-- The client reads the ports in the reply, and the sockets are those that the request got. -/
def announcementOf (now : UdpStage) : Option Announcement :=
  match now.event, now.output with
  | .readable _ _ environment, .output output =>
      (udpRequestOf now.before now.event).bind fun request =>
        if request.method = some .SETUP ∧ answered200 output = true then
          (output.reply.bind fun reply => readPortReply reply.text).map fun read =>
            { session := read.session
              second := request.second
              attr := ⟨read.client.1, read.client.2, read.server.1, read.server.2,
                environment.serverRtpSockfd, environment.serverRtcpSockfd⟩ }
        else none
  | _, _ => none

/-- The ledger holds what was announced last for each track. -/
abbrev Ledger := List UInt8 → TrackName → Option RtspAttr

/-- The first track starts its session afresh. -/
def Ledger.enter (ledger : Ledger) (entry : Announcement) : Ledger :=
  Function.update ledger entry.session
    (Function.update (if entry.second then ledger entry.session else fun _ => none)
      (trackOf entry.second) (some entry.attr))

def Ledger.advance (ledger : Ledger) (now : UdpStage) : Ledger :=
  match announcementOf now with
  | none => ledger
  | some entry => ledger.enter entry

/-- The last lines that give ports decide what the client asks for. -/
def askedPorts : UdpEvent → Int × Int
  | .readable _ received environment =>
      let lines := receivedText received.bytes environment.surroundings
      ((lastRead rtpPortOn lines).getD (-1), (lastRead rtcpPortOn lines).getD (-1))
  | _ => (-1, -1)

/-- Such a line is asked for unless a later one also gives ports. -/
theorem askedPorts_portLine {clientFd : Nat} {received : Received} {environment : UdpSurroundings}
    {front back : List (List UInt8)} {client : Int × Int}
    (lines : receivedText received.bytes environment.surroundings =
      front ++ portLine client :: back) (later : ∀ line ∈ back, givesPorts line = false) :
    askedPorts (.readable clientFd received environment) =
      (storeInt client.1, storeInt client.2) := by
  obtain ⟨rtp, rtcp⟩ := portLine_ports client
  have first : lastRead rtpPortOn (front ++ portLine client :: back) = some (storeInt client.1) :=
    lastWrite_iff.mpr ⟨front, portLine client, back, rfl, rtp, fun line member => by
      rw [rtpPortOn, later line member]
      rfl⟩
  have second : lastRead rtcpPortOn (front ++ portLine client :: back) =
      some (storeInt client.2) :=
    lastWrite_iff.mpr ⟨front, portLine client, back, rfl, rtcp, fun line member => by
      rw [rtcpPortOn, later line member]
      rfl⟩
  rw [askedPorts, lines, first, second]
  rfl

def serverPorts (attr : RtspAttr) : Finset Int := {attr.serverRtpPort_, attr.serverRtcpPort_}

/-- The table holds the entries of the ledger and zeros for all other tracks. -/
def HoldsLedger (ledger : Ledger) (manager : SessionManager) : Prop :=
  ∀ session sess, manager.getSession session = some sess →
    sess.attr = fun track => (ledger session track).getD RtspAttr.zero

/-- No two tracks share a port of the server. -/
def Ledger.Apart (ledger : Ledger) : Prop :=
  ∀ session track other otherTrack, (session, track) ≠ (other, otherTrack) →
    ∀ attr ∈ ledger session track, ∀ otherAttr ∈ ledger other otherTrack,
      Disjoint (serverPorts attr) (serverPorts otherAttr)

section Tables

/-- The sessions and their attributes are the same in both tables. -/
def SameAttrs (before after : SessionManager) : Prop :=
  ∀ session, (after.getSession session).map Session.attr =
    (before.getSession session).map Session.attr

variable {before middle after : SessionManager} {ledger : Ledger}

theorem SameAttrs.refl (manager : SessionManager) : SameAttrs manager manager := fun _ => rfl

theorem SameAttrs.trans (first : SameAttrs before middle) (second : SameAttrs middle after) :
    SameAttrs before after := fun session => (second session).trans (first session)

theorem SameAttrs.holds (same : SameAttrs before after) (holds : HoldsLedger ledger before) :
    HoldsLedger ledger after := by
  intro session sess found
  have kept := same session
  rw [found, Option.map_some] at kept
  obtain ⟨old, stored, attr⟩ := Option.map_eq_some_iff.mp kept.symm
  rw [← attr]
  exact holds session old stored

/-- A session may change in everything but its attributes. -/
theorem SameAttrs.addSession {session : List UInt8} {old sess : Session}
    (found : before.getSession session = some old) (same : sess.attr = old.attr) :
    SameAttrs before (before.addSession session sess) := by
  intro other
  by_cases equal : other = session
  · rw [equal, getSession_addSession, found, Option.map_some, Option.map_some, same]
  · rw [getSession_addSession_of_ne before sess equal]

end Tables

section SetUp

variable (environment : UdpSurroundings) (read : UdpScanned) (portManager : PortManager)

end SetUp

section Store

variable {environment : UdpSurroundings} {attr : RtspAttr} {handler stored : RtspHandler}

theorem attr_setInfo (session : Session) (track : TrackName) (attr : RtspAttr) :
    (session.setInfo track attr).attr = Function.update session.attr track attr := by
  funext other
  by_cases same : other = track
  · simp [Session.attr, Session.setInfo, same]
  · simp [Session.attr, Session.setInfo, Function.update_of_ne same]

/-- The session gets the attributes of its track, and a new one has zeros besides. -/
theorem storeTrack_session (stores : storeTrack environment attr handler = some stored) :
    stored.clientFdManager_.sessionId = handler.clientFdManager_.sessionId ∧
      ∃ sess : Session,
        stored.sessionManager_ = handler.sessionManager_.addSession handler.session_ sess ∧
        ((handler.clientFdManager_.flag handler.clientFd_ = false ∧
            sess.attr = Function.update (fun _ => RtspAttr.zero) .video attr) ∨
          (handler.clientFdManager_.flag handler.clientFd_ = true ∧
            ∃ old, handler.sessionManager_.getSession handler.session_ = some old ∧
              sess.attr = Function.update old.attr .audio attr)) := by
  rw [storeTrack] at stores
  dsimp only at stores
  split_ifs at stores with first
  · obtain rfl := Option.some.inj stores
    exact ⟨rfl, _, rfl, Or.inl ⟨first, attr_setInfo _ _ _⟩⟩
  · obtain ⟨old, found, rfl⟩ := Option.map_eq_some_iff.mp stores
    exact ⟨rfl, _, rfl, Or.inr ⟨(Bool.not_eq_false _).mp first, old, found, attr_setInfo _ _ _⟩⟩

/-- What is stored is what is entered. -/
theorem storeTrack_holds {ledger : Ledger} (holds : HoldsLedger ledger handler.sessionManager_)
    (stores : storeTrack environment attr handler = some stored) :
    HoldsLedger (ledger.enter ⟨handler.session_, handler.clientFdManager_.flag handler.clientFd_,
      attr⟩) stored.sessionManager_ := by
  obtain ⟨_, sess, table, tracks⟩ := storeTrack_session stores
  intro session found stored
  rw [table] at stored
  by_cases same : session = handler.session_
  · rw [same, getSession_addSession] at stored
    obtain rfl := Option.some.inj stored
    funext track
    rw [Ledger.enter, same, Function.update_self]
    rcases tracks with ⟨first, attrs⟩ | ⟨second, old, known, attrs⟩
    · simp only [first, attrs, trackOf]
      cases track <;> simp
    · have before := holds _ old known
      simp only [second, attrs, trackOf, before]
      cases track <;> simp
  · rw [getSession_addSession_of_ne _ _ same] at stored
    rw [Ledger.enter, Function.update_of_ne same]
    exact holds session found stored

end Store

/-- The entries have well-formed ports, and these are allocated. -/
def Ledger.Backed (ledger : Ledger) (portManager : PortManager) : Prop :=
  ∀ session track, ∀ attr ∈ ledger session track, ∃ ports, WellFormed ports ∧
    (attr.serverRtpPort_, attr.serverRtcpPort_) = serverPair ports ∧
    portCells ports ⊆ portManager.allocatedPorts

section Entries

variable {ledger : Ledger} {entry : Announcement} {portManager after : PortManager}

/-- An entry is the new one or an old one of another track. -/
theorem enter_mem {session : List UInt8} {track : TrackName} {attr : RtspAttr}
    (member : attr ∈ ledger.enter entry session track) :
    (session, track) = (entry.session, trackOf entry.second) ∧ attr = entry.attr ∨
      (session, track) ≠ (entry.session, trackOf entry.second) ∧ attr ∈ ledger session track := by
  rw [Ledger.enter] at member
  by_cases same : session = entry.session
  · rw [same, Function.update_self] at member
    by_cases equal : track = trackOf entry.second
    · rw [equal, Function.update_self] at member
      exact Or.inl ⟨by rw [same, equal], (Option.some.inj member).symm⟩
    · rw [Function.update_of_ne equal] at member
      refine Or.inr ⟨fun both => equal (Prod.mk.inj both).2, ?_⟩
      cases second : entry.second with
      | false =>
          simp only [second, Bool.false_eq_true, if_false] at member
          exact nomatch member
      | true =>
          simp only [second, if_true] at member
          rwa [same]
  · rw [Function.update_of_ne same] at member
    exact Or.inr ⟨fun both => same (Prod.mk.inj both).1, member⟩

theorem mem_serverPorts {attr : RtspAttr} {ports : PortPair} {port : Int}
    (pair : (attr.serverRtpPort_, attr.serverRtcpPort_) = serverPair ports) :
    port ∈ serverPorts attr ↔ ∃ cell ∈ portCells ports, port = cell.toNat := by
  obtain ⟨rtp, rtcp⟩ := Prod.mk.inj pair
  rw [serverPorts, rtp, rtcp]
  simp [portCells]

/-- Ports that were free are shared with no entry. -/
theorem Ledger.Backed.apart (backed : ledger.Backed portManager) {attr : RtspAttr}
    {ports : PortPair} (pair : (attr.serverRtpPort_, attr.serverRtcpPort_) = serverPair ports)
    (fresh : Disjoint (portCells ports) portManager.allocatedPorts) {session : List UInt8}
    {track : TrackName} {other : RtspAttr} (member : other ∈ ledger session track) :
    Disjoint (serverPorts attr) (serverPorts other) := by
  obtain ⟨otherPorts, _, otherPair, allocated⟩ := backed session track other member
  rw [Finset.disjoint_left]
  intro port inside both
  obtain ⟨cell, new, rfl⟩ := (mem_serverPorts pair).mp inside
  obtain ⟨otherCell, old, same⟩ := (mem_serverPorts otherPair).mp both
  have equal : cell = otherCell := UInt16.toNat_inj.mp (Int.ofNat.inj same)
  exact Finset.disjoint_left.mp fresh new (allocated (equal ▸ old))

theorem Ledger.Backed.enter (backed : ledger.Backed portManager) {ports : PortPair}
    (wellFormed : WellFormed ports)
    (pair : (entry.attr.serverRtpPort_, entry.attr.serverRtcpPort_) = serverPair ports)
    (allocated : after.allocatedPorts = portCells ports ∪ portManager.allocatedPorts) :
    (ledger.enter entry).Backed after := by
  intro session track attr member
  rcases enter_mem member with ⟨_, rfl⟩ | ⟨_, old⟩
  · refine ⟨ports, wellFormed, pair, ?_⟩
    rw [allocated]
    exact Finset.subset_union_left
  · obtain ⟨oldPorts, oldFormed, oldPair, inside⟩ := backed session track attr old
    refine ⟨oldPorts, oldFormed, oldPair, inside.trans ?_⟩
    rw [allocated]
    exact Finset.subset_union_right

theorem Ledger.Apart.enter (apart : ledger.Apart) (backed : ledger.Backed portManager)
    {ports : PortPair}
    (pair : (entry.attr.serverRtpPort_, entry.attr.serverRtcpPort_) = serverPair ports)
    (fresh : Disjoint (portCells ports) portManager.allocatedPorts) :
    (ledger.enter entry).Apart := by
  intro session track other otherTrack different attr member otherAttr otherMember
  rcases enter_mem member with ⟨here, rfl⟩ | ⟨_, old⟩
  · rcases enter_mem otherMember with ⟨there, rfl⟩ | ⟨_, otherOld⟩
    · exact absurd (here.trans there.symm) different
    · exact backed.apart pair fresh otherOld
  · rcases enter_mem otherMember with ⟨_, rfl⟩ | ⟨_, otherOld⟩
    · exact (backed.apart pair fresh old).symm
    · exact apart session track other otherTrack different attr old otherAttr otherOld

end Entries

/-- The tables, the pool and the ledger agree. -/
structure SoundLedger (ledger : Ledger) (udp : UdpTables) : Prop where
  ids : ∀ clientFd, Solid (udp.server.clientFdManager.sessionId clientFd)
  holds : HoldsLedger ledger udp.server.sessionManager
  backed : ledger.Backed udp.portManager
  apart : ledger.Apart

theorem SoundLedger.start : SoundLedger (fun _ _ => none) UdpTables.start where
  ids _ _ member := absurd member (by simp [UdpTables.start, EpollServer.start,
    ClientFdManager.sessionId, ClientFdManager.empty])
  holds _ _ found := nomatch found
  backed _ _ _ member := nomatch member
  apart _ _ _ _ _ _ member := nomatch member

section Stage

variable {ledger : Ledger} {udp : UdpTables} {clientFd : Nat} {received : Received}
  {environment : UdpSurroundings}

/-- Without an announcement the ledger stays, and the tables may only spend ports. -/
theorem SoundLedger.kept (sound : SoundLedger ledger udp) {now : UdpStage}
    (silent : announcementOf now = none)
    (attrs : SameAttrs udp.server.sessionManager now.after.server.sessionManager)
    (ids : ∀ clientFd, Solid (now.after.server.clientFdManager.sessionId clientFd))
    (spends : udp.portManager.allocatedPorts ⊆ now.after.portManager.allocatedPorts) :
    SoundLedger (ledger.advance now) now.after := by
  rw [Ledger.advance, silent]
  refine ⟨ids, attrs.holds sound.holds, fun session track attr member => ?_, sound.apart⟩
  obtain ⟨ports, wellFormed, pair, inside⟩ := sound.backed session track attr member
  exact ⟨ports, wellFormed, pair, inside.trans spends⟩

/-- A request that stores its track enters what the client reads. -/
theorem SoundLedger.stored (sound : SoundLedger ledger udp) {now : UdpStage}
    {session : List UInt8} {ports : PortPair} {attr : RtspAttr} {handler stored : RtspHandler}
    (announced : announcementOf now =
      some ⟨session, handler.clientFdManager_.flag handler.clientFd_, attr⟩)
    (named : handler.session_ = session)
    (sessions : handler.sessionManager_ = udp.server.sessionManager)
    (stores : storeTrack environment attr handler = some stored)
    (pair : (attr.serverRtpPort_, attr.serverRtcpPort_) = serverPair ports)
    (returned : udp.portManager.generatePorts environment.attempts =
      some (.ok (ports, now.after.portManager)))
    (attrs : SameAttrs stored.sessionManager_ now.after.server.sessionManager)
    (ids : ∀ clientFd, Solid (now.after.server.clientFdManager.sessionId clientFd)) :
    SoundLedger (ledger.advance now) now.after := by
  obtain ⟨_, fresh, allocated⟩ := generatePorts_ok returned
  have cells : now.after.portManager.allocatedPorts =
      portCells ports ∪ udp.portManager.allocatedPorts := by rw [allocated, allocate_cells]
  have holds := storeTrack_holds (by rw [sessions]; exact sound.holds) stores
  rw [named] at holds
  rw [Ledger.advance, announced]
  exact ⟨ids, attrs.holds holds,
    sound.backed.enter (generatePorts_wellFormed returned) pair cells,
    sound.apart.enter sound.backed pair fresh⟩

end Stage

end FzServer.Server
