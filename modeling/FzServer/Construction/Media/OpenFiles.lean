import FzServer.Construction.Media.SendAac
import FzServer.Construction.Media.SendH264

/-
This file keeps the open files of the process while the media loops run.
-/

namespace FzServer.Media

open Foundation Rtp

/-- The record keeps the open streams and every stream that was closed. -/
structure OpenFiles where
  streams : List Nat
  closed : List Nat

namespace OpenFiles

variable (files : OpenFiles) (fp : Nat)

def fopen : OpenFiles := { files with streams := fp :: files.streams }

def fclose : OpenFiles where
  streams := files.streams.erase fp
  closed := fp :: files.closed

/-- The path behind the loop closes the file, and a return inside the loop leaves it open. -/
def behind (file : Option (List UInt8)) (leftOpen : Nat) : OpenFiles :=
  if file.isNone then files
  else if leftOpen = 0 then (files.fopen fp).fclose fp
  else files.fopen fp

end OpenFiles

variable (files : OpenFiles) (fp : Nat) (file : Option (List UInt8)) (heap : Memory UInt8)
  (packetHeap : RtpPacket) (socket : Socket)

def sendAacOverTcpFiles : Option (AudioRun × OpenFiles) :=
  (sendAacOverTcp file heap packetHeap socket).map fun run =>
    (run, files.behind fp file run.leftOpen)

def sendH264OverTcpFiles : Option (VideoRun × OpenFiles) :=
  (sendH264OverTcp file heap packetHeap socket).map fun run =>
    (run, files.behind fp file run.leftOpen)

end FzServer.Media
