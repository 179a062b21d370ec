import Mathlib.Algebra.BigOperators.Ring.List
import Mathlib.Algebra.Ring.Nat
import Mathlib.Tactic.Common

/-
This file gives systems whose parties take steps in any order, and a rule for their runs.
-/

namespace FzServer.Foundation

variable {State Action : Type}

/-- A schedule has no result when one of its actions is not enabled in its turn. -/
def follow (step : State → Action → Option State) (state : State) (schedule : List Action) :
    Option State :=
  schedule.foldlM step state

theorem follow_cons (step : State → Action → Option State) (state : State) (action : Action)
    (schedule : List Action) :
    follow step state (action :: schedule) =
      (step state action).bind fun next => follow step next schedule :=
  List.foldlM_cons

theorem follow_append (step : State → Action → Option State) (state : State)
    (first second : List Action) :
    follow step state (first ++ second) =
      (follow step state first).bind fun next => follow step next second :=
  List.foldlM_append

/-- An invariant may speak of the actions that are still to come. -/
theorem follow_invariant {step : State → Action → Option State}
    (invariant : State → List Action → Prop)
    (keeps : ∀ state action rest next, invariant state (action :: rest) →
      step state action = some next → invariant next rest)
    {state final : State} {schedule : List Action} (start : invariant state schedule)
    (run : follow step state schedule = some final) : invariant final [] := by
  induction schedule generalizing state with
  | nil =>
      obtain rfl := Option.some.inj run
      exact start
  | cons action schedule ih =>
      rw [follow_cons] at run
      obtain ⟨next, now, later⟩ := Option.bind_eq_some_iff.mp run
      exact ih (keeps state action schedule next start now) later

/-- What the steps spend is paid from a potential and from what they gain. -/
theorem follow_potential {step : State → Action → Option State} (invariant : State → Prop)
    (potential : State → Nat) (spends gains : Action → Nat)
    (keeps : ∀ state action next, invariant state → step state action = some next →
      invariant next ∧ potential next + spends action ≤ potential state + gains action)
    {state final : State} {schedule : List Action} (start : invariant state)
    (run : follow step state schedule = some final) :
    potential final + (schedule.map spends).sum ≤ potential state + (schedule.map gains).sum := by
  induction schedule generalizing state with
  | nil =>
      obtain rfl := Option.some.inj run
      exact Nat.le_refl _
  | cons action schedule ih =>
      rw [follow_cons] at run
      obtain ⟨next, now, later⟩ := Option.bind_eq_some_iff.mp run
      obtain ⟨kept, paid⟩ := keeps state action next start now
      have rest := ih kept later
      rw [List.map_cons, List.map_cons, List.sum_cons, List.sum_cons]
      omega

/-- An observer sees something of each step that is taken. -/
def observe {Seen : Type} (step : State → Action → Option State)
    (sees : State → Action → List Seen) : State → List Action → List Seen
  | _, [] => []
  | state, action :: rest =>
      sees state action ++
        match step state action with
        | none => []
        | some next => observe step sees next rest

/-- An invariant may speak of everything that the observer has seen. -/
theorem follow_observed {Seen : Type} {step : State → Action → Option State}
    {sees : State → Action → List Seen} (invariant : State → List Seen → Prop)
    (keeps : ∀ state seen action next, invariant state seen → step state action = some next →
      invariant next (seen ++ sees state action))
    {state final : State} {seen : List Seen} {schedule : List Action}
    (start : invariant state seen) (run : follow step state schedule = some final) :
    invariant final (seen ++ observe step sees state schedule) := by
  induction schedule generalizing state seen with
  | nil =>
      obtain rfl := Option.some.inj run
      rw [observe, List.append_nil]
      exact start
  | cons action schedule ih =>
      rw [follow_cons] at run
      obtain ⟨next, now, later⟩ := Option.bind_eq_some_iff.mp run
      have kept := ih (keeps state seen action next start now) later
      simp only [observe, now]
      rwa [← List.append_assoc]

/-- Each step of the schedule meets a condition on the state before it. -/
def Meets (step : State → Action → Option State) (condition : State → Action → Prop) :
    State → List Action → Prop
  | _, [] => True
  | state, action :: rest =>
      condition state action ∧
        ∀ next, step state action = some next → Meets step condition next rest

/-- A schedule that meets a decidable condition can be computed. -/
instance Meets.decidable (step : State → Action → Option State)
    (condition : State → Action → Prop) [∀ state action, Decidable (condition state action)] :
    (state : State) → (schedule : List Action) → Decidable (Meets step condition state schedule)
  | _, [] => isTrue trivial
  | state, action :: rest =>
      match now : step state action with
      | none => decidable_of_iff (condition state action) (by simp [Meets, now])
      | some next =>
          have := Meets.decidable step condition next rest
          decidable_of_iff (condition state action ∧ Meets step condition next rest)
            (by simp [Meets, now])

theorem Meets.cons {step : State → Action → Option State} {condition : State → Action → Prop}
    {state next : State} {action : Action} {rest : List Action} (first : condition state action)
    (now : step state action = some next) (later : Meets step condition next rest) :
    Meets step condition state (action :: rest) :=
  ⟨first, fun _ same => Option.some.inj (now.symm.trans same) ▸ later⟩

theorem Meets.append {step : State → Action → Option State} {condition : State → Action → Prop}
    {state middle : State} {first second : List Action} (meets : Meets step condition state first)
    (run : follow step state first = some middle) (later : Meets step condition middle second) :
    Meets step condition state (first ++ second) := by
  induction first generalizing state with
  | nil =>
      obtain rfl := Option.some.inj run
      exact later
  | cons action first ih =>
      rw [follow_cons] at run
      obtain ⟨next, now, rest⟩ := Option.bind_eq_some_iff.mp run
      exact Meets.cons meets.1 now (ih (meets.2 next now) rest)

/-- An invariant may need a condition on the steps. -/
theorem follow_invariant_of_meets {step : State → Action → Option State}
    {condition : State → Action → Prop} (invariant : State → Prop)
    (keeps : ∀ state action next, invariant state → condition state action →
      step state action = some next → invariant next)
    {state final : State} {schedule : List Action} (start : invariant state)
    (steps : Meets step condition state schedule)
    (run : follow step state schedule = some final) : invariant final := by
  have kept := follow_invariant
    (fun state rest => invariant state ∧ Meets step condition state rest)
    (fun state action rest next ⟨holds, first, later⟩ now =>
      ⟨keeps state action next holds first now, later next now⟩)
    ⟨start, steps⟩ run
  exact kept.1

end FzServer.Foundation
