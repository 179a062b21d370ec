import FzServer.Construction.Rtsp.UdpHandler
import FzServer.Proof.Reply.Announcement

/-
This file reads the ports out of a reply to SETUP over UDP.
-/

namespace FzServer.Replies

open Foundation Sessions Rtsp Utility Server

/-- A parameter of the transport holds two ports. -/
def portPair (name transport : List UInt8) : Option (Int × Int) :=
  ((transport.splitOn 0x3B).findSome? (scanLiteral name)).bind fun pair =>
    (scanNumber pair).bind fun first =>
      ((scanLiteral (ascii "-") (afterInt pair)).bind scanNumber).map fun second => (first, second)

/-- The client learns its session, its own ports and those of the server. -/
structure PortReply where
  session : List UInt8
  client : Int × Int
  server : Int × Int
  deriving DecidableEq

def readPortReply (text : List UInt8) : Option PortReply :=
  (messageCodec.decode text).bind fun read =>
    (read.1.field (ascii "Session")).bind fun session =>
      (read.1.field (ascii "Transport")).bind fun transport =>
        (portPair (ascii "client_port=") transport).bind fun client =>
          (portPair (ascii "server_port=") transport).map fun server => ⟨session, client, server⟩

/-- The ports of the server are printed as numbers. -/
def serverPair (ports : PortPair) : Int × Int := (ports.1.toNat, ports.2.toNat)

end FzServer.Replies
