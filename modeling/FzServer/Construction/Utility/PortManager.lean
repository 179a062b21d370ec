import FzServer.Foundation.CString
import FzServer.Foundation.Schedule
import Mathlib.Data.Finset.Basic

/-
This file gives the pairs of RTP and RTCP ports that the server hands out.
-/

namespace FzServer.Utility

open Foundation

/-- The random device draws from the range of the distribution. -/
structure Draw where
  port : UInt16
  low : 55000 ≤ port
  high : port ≤ 65534
  deriving DecidableEq

/-- The operating system answers each probe of a port. -/
inductive Probe
  | noSocket (errno : Int)
  | occupied
  | bound
  deriving DecidableEq

/-- The probe of the second port is not made when the first one fails. -/
structure Attempt where
  draw : Draw
  rtpProbe : Probe
  rtcpProbe : Probe
  deriving DecidableEq

structure SystemError where
  errno : Int
  what : List UInt8
  deriving DecidableEq

abbrev PortPair := UInt16 × UInt16

structure PortManager where
  allocatedPorts : Finset UInt16

namespace PortManager

/-- No port is allocated at the start. -/
def empty : PortManager := ⟨∅⟩

def isPortAvailable (manager : PortManager) (port : UInt16) (probe : Probe) :
    Except SystemError Bool :=
  if port ∈ manager.allocatedPorts then .ok false
  else
    match probe with
    | .noSocket errno => .error ⟨errno, ascii "Failed to create socket"⟩
    | .occupied => .ok false
    | .bound => .ok true

/-- The mask is an `int`, and the result is cut to sixteen bits. -/
def evenPort (draw : Draw) : UInt16 := (draw.port.toUInt32 &&& ~~~1).toUInt16

def bothAvailable (manager : PortManager) (attempt : Attempt) : Except SystemError Bool := do
  let rtpPort := evenPort attempt.draw
  if ← manager.isPortAvailable rtpPort attempt.rtpProbe then
    manager.isPortAvailable (rtpPort + 1) attempt.rtcpProbe
  else return false

def allocate (manager : PortManager) (ports : PortPair) : PortManager :=
  ⟨insert ports.2 (insert ports.1 manager.allocatedPorts)⟩

/-- The loop has no result while it goes on behind the attempts. -/
def generatePorts (manager : PortManager) :
    List Attempt → Option (Except SystemError (PortPair × PortManager))
  | [] => none
  | attempt :: attempts =>
      match manager.bothAvailable attempt with
      | .error exception => some (.error exception)
      | .ok true =>
          let ports := (evenPort attempt.draw, evenPort attempt.draw + 1)
          some (.ok (ports, manager.allocate ports))
      | .ok false => manager.generatePorts attempts

def releasePorts (manager : PortManager) (ports : PortPair) : PortManager :=
  ⟨(manager.allocatedPorts.erase ports.1).erase ports.2⟩

end PortManager

/-- The last two fields are a record of what happened and no function reads them. -/
structure PortHistory where
  manager : PortManager
  outstanding : List PortPair
  returned : List PortPair

inductive PortCall
  | generatePorts (attempts : List Attempt)
  | releasePorts (ports : PortPair)
  deriving DecidableEq

namespace PortHistory

def start : PortHistory := ⟨.empty, [], []⟩

def generate (history : PortHistory) (attempts : List Attempt) : Option PortHistory :=
  match history.manager.generatePorts attempts with
  | none => none
  | some (.error _) => some history
  | some (.ok (ports, manager)) =>
      some ⟨manager, ports :: history.outstanding, ports :: history.returned⟩

/-- Only a pair that is outstanding is released. -/
def release (history : PortHistory) (ports : PortPair) : Option PortHistory :=
  if ports ∈ history.outstanding then
    some { history with
      manager := history.manager.releasePorts ports
      outstanding := history.outstanding.erase ports }
  else none

/-- The mutex makes a step of each call. -/
def step (history : PortHistory) : PortCall → Option PortHistory
  | .generatePorts attempts => history.generate attempts
  | .releasePorts ports => history.release ports

end PortHistory

end FzServer.Utility
