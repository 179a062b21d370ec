import FzServer.Foundation.Machine
import Mathlib.Data.List.Infix

/-
This file relates the runs of two machines, and the runs of one machine with and without some of
its events.
-/

namespace FzServer.Foundation

variable {State Event Output State' Event' : Type}

/-- The second machine does what the first one does, seen through a translation. -/
structure Simulation (concrete : Machine State Event Output)
    (abstract : Machine State' Event' Output) where
  state : State → State'
  event : Event → Event'
  step : ∀ current given, abstract.step (state current) (event given) =
    (state (concrete.step current given).1, (concrete.step current given).2)
  halts : ∀ given, abstract.halts given = concrete.halts given

namespace Simulation

variable {concrete : Machine State Event Output} {abstract : Machine State' Event' Output}
  (simulation : Simulation concrete abstract)

def translate (now : Stage State Event Output) : Stage State' Event' Output where
  before := simulation.state now.before
  event := simulation.event now.event
  after := simulation.state now.after
  output := now.output

theorem stage (current : State) (given : Event) :
    abstract.stage (simulation.state current) (simulation.event given) =
      simulation.translate (concrete.stage current given) := by
  simp only [Machine.stage, translate, simulation.step]

/-- The translated run is the run of the translated events. -/
theorem run (current : State) (events : List Event) :
    abstract.run (simulation.state current) (events.map simulation.event) =
      (concrete.run current events).map simulation.translate := by
  induction events generalizing current with
  | nil => rfl
  | cons given events ih =>
      rw [List.map_cons, Machine.run, Machine.run, List.map_cons]
      simp only [simulation.stage]
      change _ ::
        (if abstract.halts (concrete.stage current given).output = true then [] else _) = _
      rw [simulation.halts]
      congr 1
      split_ifs
      · rfl
      · exact ih (concrete.stage current given).after

/-- Both machines give the same answers in the same order. -/
theorem outputs (current : State) (events : List Event) :
    (abstract.run (simulation.state current) (events.map simulation.event)).map Stage.output =
      (concrete.run current events).map Stage.output := by
  rw [simulation.run, List.map_map]
  rfl

end Simulation

/-- Two machines that answer related states alike answer whole runs alike. -/
theorem Machine.run_related {Output' : Type} {first : Machine State Event Output}
    {second : Machine State' Event' Output'} (event : Event → Event')
    (related : State → State' → Prop) (allowed : Stage State Event Output → Prop)
    (alike : Stage State Event Output → Stage State' Event' Output' → Prop)
    (step : ∀ one two given, related one two → allowed (first.stage one given) →
      alike (first.stage one given) (second.stage two (event given)) ∧
        first.halts (first.step one given).2 = second.halts (second.step two (event given)).2 ∧
        related (first.step one given).1 (second.step two (event given)).1)
    {one : State} {two : State'} (start : related one two) (events : List Event)
    (fair : ∀ now ∈ first.run one events, allowed now) :
    List.Forall₂ alike (first.run one events) (second.run two (events.map event)) := by
  induction events generalizing one two with
  | nil => exact List.Forall₂.nil
  | cons given events ih =>
      rw [List.map_cons]
      rw [Machine.run] at fair
      obtain ⟨now, later⟩ := List.forall_mem_cons.mp fair
      obtain ⟨answers, halts, next⟩ := step one two given start now
      rw [Machine.run, Machine.run]
      refine List.Forall₂.cons answers ?_
      change List.Forall₂ alike (if first.halts (first.step one given).2 = true then [] else _)
        (if second.halts (second.step two (event given)).2 = true then [] else _)
      by_cases ends : first.halts (first.step one given).2 = true
      · rw [if_pos ends, if_pos (halts ▸ ends)]
        exact List.Forall₂.nil
      · rw [if_neg ends, if_neg (halts ▸ ends)]
        change ∀ now ∈ (if first.halts (first.step one given).2 = true then [] else _), _ at later
        rw [if_neg ends] at later
        exact ih next later

/-- The stages behind the first one belong to the run when the first one does not halt. -/
theorem Machine.mem_run_later {machine : Machine State Event Output} {state : State}
    {given : Event} {events : List Event} {now : Stage State Event Output}
    (goes : ¬machine.halts (machine.step state given).2 = true)
    (member : now ∈ machine.run (machine.step state given).1 events) :
    now ∈ machine.run state (given :: events) := by
  rw [Machine.run]
  change now ∈ _ :: (if machine.halts (machine.step state given).2 = true then [] else _)
  rw [if_neg goes]
  exact List.mem_cons_of_mem _ member

/-- One party sees no difference between these states, whatever the other parties do. -/
structure Separation (machine : Machine State Event Output) where
  own : Event → Bool
  fair : Event → Prop
  alike : State → State → Prop
  ownStep : ∀ first second given, alike first second → own given = true → fair given →
    (machine.step first given).2 = (machine.step second given).2 ∧
      alike (machine.step first given).1 (machine.step second given).1
  otherStep : ∀ first second given, alike first second → own given = false → fair given →
    alike (machine.step first given).1 second

namespace Separation

variable {machine : Machine State Event Output} (separation : Separation machine)

/-- The party gets these answers. -/
def answers (state : State) (events : List Event) : List Output :=
  ((machine.run state events).filter fun now => separation.own now.event).map Stage.output

theorem answers_own {state : State} {given : Event} {events : List Event}
    (own : separation.own given = true) :
    separation.answers state (given :: events) =
      (machine.step state given).2 ::
        if machine.halts (machine.step state given).2 then []
        else separation.answers (machine.step state given).1 events := by
  simp only [answers, Machine.run]
  rw [List.filter_cons_of_pos (by exact own), List.map_cons]
  change _ :: List.map _ (List.filter _ (if machine.halts (machine.step state given).2 then [] else
    machine.run (machine.step state given).1 events)) = _
  split_ifs
  · rfl
  · rfl

theorem answers_other {state : State} {given : Event} {events : List Event}
    (other : separation.own given = false) :
    separation.answers state (given :: events) =
      if machine.halts (machine.step state given).2 then []
      else separation.answers (machine.step state given).1 events := by
  simp only [answers, Machine.run]
  rw [List.filter_cons_of_neg (by rw [Bool.not_eq_true]; exact other)]
  change List.map _ (List.filter _ (if machine.halts (machine.step state given).2 then [] else
    machine.run (machine.step state given).1 events)) = _
  split_ifs
  · rfl
  · rfl

/-- Without the events of the others the party gets the same answers, and more of them only
where another party halts the machine. -/
theorem answers_prefix {first second : State} (same : separation.alike first second)
    (events : List Event) (fair : ∀ given ∈ events, separation.fair given) :
    separation.answers first events <+:
        separation.answers second (events.filter separation.own) ∧
      ((∀ now ∈ machine.run first events, separation.own now.event = false →
          machine.halts now.output = false) →
        separation.answers first events =
          separation.answers second (events.filter separation.own)) := by
  induction events generalizing first second with
  | nil => exact ⟨List.prefix_rfl, fun _ => rfl⟩
  | cons given events ih =>
      obtain ⟨now, later⟩ := List.forall_mem_cons.mp fair
      cases own : separation.own given with
      | true =>
          obtain ⟨output, next⟩ := separation.ownStep first second given same own now
          rw [List.filter_cons_of_pos own, separation.answers_own own, separation.answers_own own,
            ← output]
          by_cases halts : machine.halts (machine.step first given).2 = true
          · rw [if_pos halts, if_pos halts]
            exact ⟨List.prefix_rfl, fun _ => rfl⟩
          · rw [if_neg halts, if_neg halts]
            obtain ⟨front, whole⟩ := ih next later
            refine ⟨List.prefix_cons_inj _ |>.mpr front, fun goes => ?_⟩
            rw [whole fun stage member => goes stage (Machine.mem_run_later halts member)]
      | false =>
          have next := separation.otherStep first second given same own now
          rw [List.filter_cons_of_neg (by rw [own]; decide), separation.answers_other own]
          by_cases halts : machine.halts (machine.step first given).2 = true
          · rw [if_pos halts]
            refine ⟨List.nil_prefix, fun goes => ?_⟩
            have went := goes (machine.stage first given) List.mem_cons_self own
            exact absurd (halts.symm.trans went) (by decide)
          · rw [if_neg halts]
            obtain ⟨front, whole⟩ := ih next later
            exact ⟨front, fun goes => whole fun stage member =>
              goes stage (Machine.mem_run_later halts member)⟩

end Separation

end FzServer.Foundation
