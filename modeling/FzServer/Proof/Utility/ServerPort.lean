import FzServer.Construction.Server.Startup
import FzServer.Proof.Utility.IniText

/-
This file follows the port from the configuration file to the listening socket.
-/

namespace FzServer.Server

open Foundation Rtp Utility IniFile

/-- A file that does not open has no lines. -/
def configLines (config : Option (List UInt8)) : List (List UInt8) := config.elim [] getlines

/-- The server asks for this port. -/
def configuredPort (config : Option (List UInt8)) : Int32 :=
  ((lastValue (effectWrites (ascii "server") (ascii "port"))
    (placeEffects [] (configLines config))).getD ⟨[]⟩).toInt

variable {config : Option (List UInt8)} {answers : StartAnswers}

/-- Such a configuration never throws an exception. -/
theorem run_eq (short : ∀ line ∈ configLines config, line.length < 2147483647) :
    run config answers =
      if answers.logOpens = false then .thrown
      else
        match initserver (configuredPort config) answers with
        | none => .failed
        | some socket => .listening socket := by
  cases config with
  | none => rfl
  | some text =>
      obtain ⟨loaded, ran, holds⟩ := load_text text (ascii "conf/config.ini") short
      have port : (loaded.get (ascii "server") (ascii "port")).1.toInt =
          configuredPort (some text) := by
        rw [get_eq, holds]
        rfl
      rw [run, ran]
      dsimp only
      rewrite [port]
      rfl

/-- The three calls succeed. -/
theorem initserver_some_iff {port_ : Int32} {socket : Listening} :
    initserver port_ answers = some socket ↔
      (0 ≤ answers.socket ∧ 0 ≤ answers.bind ∧ answers.listen = 0) ∧
        socket = ⟨answers.socket, htons port_.toUInt32.toUInt16⟩ := by
  rw [initserver]
  split_ifs with noSocket noBind noListen
  · exact ⟨nofun, fun ⟨⟨sound, _⟩, _⟩ => absurd noSocket (Int.not_lt.mpr sound)⟩
  · exact ⟨nofun, fun ⟨⟨_, bound, _⟩, _⟩ => absurd noBind (Int.not_lt.mpr bound)⟩
  · exact ⟨nofun, fun ⟨⟨_, _, heard⟩, _⟩ => absurd heard noListen⟩
  · constructor
    · intro same
      exact ⟨⟨Int.not_lt.mp noSocket, Int.not_lt.mp noBind, not_not.mp noListen⟩,
        (Option.some.inj same).symm⟩
    · rintro ⟨_, rfl⟩
      rfl

theorem run_listening_iff (short : ∀ line ∈ configLines config, line.length < 2147483647)
    {socket : Listening} :
    run config answers = .listening socket ↔
      answers.logOpens = true ∧ initserver (configuredPort config) answers = some socket := by
  rw [run_eq short]
  split_ifs with unopened
  · simp [unopened]
  · have opened : answers.logOpens = true := Bool.eq_true_of_not_eq_false unopened
    cases initserver (configuredPort config) answers <;> simp [opened]

/-- The configured number is asked for, and without one the kernel chooses. -/
theorem configuredPort_spec :
    (∀ value, Configures (configLines config) (ascii "server") (ascii "port") value →
      configuredPort config = value.toInt) ∧
    ((∀ value, ¬Configures (configLines config) (ascii "server") (ascii "port") value) →
      configuredPort config = 0) := by
  constructor
  · intro value configures
    rw [configuredPort, configures_iff.mp configures, Option.getD_some]
  · intro silent
    have nothing := Option.eq_none_iff_forall_ne_some.mpr fun value =>
      mt configures_iff.mpr (silent value)
    rw [configuredPort, nothing, Option.getD_none]
    rfl

/-- The server starts exactly if the system lets it, on the port that the file configures. -/
theorem run_port (short : ∀ line ∈ configLines config, line.length < 2147483647) :
    (run config answers = .thrown ↔ answers.logOpens = false) ∧
    ((∃ socket, run config answers = .listening socket) ↔
      answers.logOpens = true ∧ 0 ≤ answers.socket ∧ 0 ≤ answers.bind ∧ answers.listen = 0) ∧
    ∀ socket, run config answers = .listening socket →
      socket.serverFd_ = answers.socket ∧
      (∀ value, Configures (configLines config) (ascii "server") (ascii "port") value →
        ntohs socket.sin_port = value.toInt.toUInt32.toUInt16) ∧
      ((∀ value, ¬Configures (configLines config) (ascii "server") (ascii "port") value) →
        ntohs socket.sin_port = 0) := by
  refine ⟨?_, ?_, fun socket up => ?_⟩
  · rw [run_eq short]
    split_ifs with unopened
    · simp [unopened]
    · cases initserver (configuredPort config) answers <;> simp [unopened]
  · simp only [run_listening_iff short, initserver_some_iff]
    constructor
    · rintro ⟨_, opened, calls, _⟩
      exact ⟨opened, calls⟩
    · rintro ⟨opened, calls⟩
      exact ⟨_, opened, calls, rfl⟩
  · obtain ⟨_, started⟩ := (run_listening_iff short).mp up
    obtain ⟨_, rfl⟩ := initserver_some_iff.mp started
    obtain ⟨configured, unconfigured⟩ := @configuredPort_spec config
    refine ⟨rfl, fun value configures => ?_, fun silent => ?_⟩
    · rw [ntohs_htons, configured value configures]
    · rw [ntohs_htons, unconfigured silent]
      rfl

/-- The second header takes the first port away, and a line may lack its equals sign. -/
def reopenedConfig : List UInt8 := ascii "[server\nport = 1\nport\n[ server ]\r\nport = 12345"

theorem run_port_reopened : ∃ socket,
    run (some reopenedConfig) ⟨true, 3, 0, 0⟩ = .listening socket ∧
      ntohs socket.sin_port = 12345 := by
  have started := @run_port (some reopenedConfig) ⟨true, 3, 0, 0⟩ (by decide +kernel)
  obtain ⟨socket, up⟩ := started.2.1.mpr (by decide)
  refine ⟨socket, up, (started.2.2 socket up).2.1 ⟨ascii "12345"⟩ ?_⟩
  exact configures_iff.mpr (by decide +kernel)

end FzServer.Server
