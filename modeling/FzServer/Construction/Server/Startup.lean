import FzServer.Construction.Rtp.RtpPacket
import FzServer.Construction.Utility.IniValue

/-
This file gives the way from the configuration file to the listening socket.
-/

namespace FzServer.Server

open Foundation Rtp Utility

/-- The operating system opens the log file or not, and its calls give these numbers. -/
structure StartAnswers where
  logOpens : Bool
  socket : Int
  bind : Int
  listen : Int

/-- The port is in network order. -/
structure Listening where
  serverFd_ : Int
  sin_port : UInt16

/-- Without a listening socket the call returns `-1`. -/
def initserver (port_ : Int32) (answers : StartAnswers) : Option Listening :=
  if answers.socket < 0 then none
  else if answers.bind < 0 then none
  else if answers.listen ≠ 0 then none
  else some ⟨answers.socket, htons port_.toUInt32.toUInt16⟩

/-- An exception ends the process, and without a socket `run` returns. -/
inductive Started
  | thrown
  | failed
  | listening (socket : Listening)

/-- No content stands for a file that does not open. The result of the loading is not looked at. -/
def run (config : Option (List UInt8)) (answers : StartAnswers) : Started :=
  match IniFile.fresh.load (ascii "conf/config.ini") config with
  | none => .thrown
  | some (_, inifile) =>
      let port_ := (inifile.get (ascii "server") (ascii "port")).1.toInt
      if answers.logOpens = false then .thrown
      else
        match initserver port_ answers with
        | none => .failed
        | some socket => .listening socket

end FzServer.Server
