import FzServer.Proof.Session.SessionView

/-
This file shows that no blank stands in the name of a session.
-/

namespace FzServer.Server

open Foundation Sessions Rtsp

def Solid (text : List UInt8) : Prop := ∀ character ∈ text, isspace character = false

/-- The names of the sessions and of the descriptors are solid. -/
structure SolidNames (view : SessionView) : Prop where
  ids : ∀ clientFd, Solid (view.ids clientFd)
  states : ∀ session, view.states session ≠ none → Solid session

theorem SolidNames.start : SolidNames EpollServer.start.view where
  ids _ _ member := absurd member (by simp [EpollServer.view, EpollServer.start,
    ClientFdManager.sessionId, ClientFdManager.empty])
  states _ stored := absurd rfl stored

/-- A solid text breaks no line. -/
theorem Solid.unbroken {text : List UInt8} (solid : Solid text) : 0x0A ∉ text ∧ 0x0D ∉ text :=
  ⟨fun member => absurd (solid _ member) (by decide),
    fun member => absurd (solid _ member) (by decide)⟩

theorem Solid.dropWhile {text : List UInt8} (solid : Solid text) :
    text.dropWhile isspace = text := by
  cases text with
  | nil => rfl
  | cons character text =>
      rw [List.dropWhile_cons_of_neg]
      rw [solid character List.mem_cons_self]
      exact Bool.false_ne_true

theorem generateSessionId_solid (randomBytes : Vector UInt8 16) :
    Solid (generateSessionId randomBytes) := by
  have blank (character : UInt8) (digit : 0x30 ≤ character) : isspace character = false := by
    rw [UInt8.le_iff_toNat_le] at digit
    simp only [isspace, decide_eq_false_iff_not, UInt8.le_iff_toNat_le, ← UInt8.toNat_inj,
      UInt8.reduceToNat] at digit ⊢
    omega
  intro character member
  rw [generateSessionId, bytesToHex, List.mem_flatMap] at member
  obtain ⟨byte, _, member⟩ := member
  rw [List.mem_pair] at member
  rcases member with rfl | rfl
  · refine blank _ (hexDigit_solid (byte / 16) ?_).1
    rw [UInt8.lt_iff_toNat_lt, UInt8.toNat_div]
    have bound := byte.toNat_lt
    change byte.toNat / 16 < 16
    omega
  · refine blank _ (hexDigit_solid (byte % 16) ?_).1
    rw [UInt8.lt_iff_toNat_lt, UInt8.toNat_mod]
    exact Nat.mod_lt _ (by decide)

/-- Every answer keeps the names solid. -/
theorem Answers.solidNames {request : Request} {before after : SessionView} {res : Int}
    {session : List UInt8} (answers : Answers request before res session after)
    (solid : SolidNames before) : SolidNames after := by
  cases answers with
  | plain => exact solid
  | refused => exact solid
  | plays play state found =>
      refine ⟨solid.ids, fun other stored => solid.states other ?_⟩
      by_cases same : other = request.named
      · rw [same, found]
        exact Option.some_ne_none state
      · simpa only [Function.update_of_ne same] using stored
  | creates creates =>
      constructor
      · intro clientFd
        by_cases same : clientFd = request.clientFd
        · simp only [same, Function.update_self]
          exact generateSessionId_solid _
        · simp only [Function.update_of_ne same]
          exact solid.ids clientFd
      · intro other stored
        by_cases same : other = request.created
        · rw [same]
          exact generateSessionId_solid _
        · simp only [Function.update_of_ne same] at stored
          exact solid.states other stored
  | attaches => exact solid

/-- Every stage keeps the names solid. -/
theorem stage_solidNames {server : EpollServer} {event : Event} (solid : SolidNames server.view) :
    SolidNames (epollServer.stage server event).after.view := by
  cases found : requestOf server event with
  | none =>
      rw [stage_silent_view found]
      exact solid
  | some request =>
      cases stage_serves found with
      | lost _ _ same _ =>
          rw [same]
          exact solid
      | answered _ _ answers _ _ _ => exact answers.solidNames solid

end FzServer.Server
