import Mathlib.Tactic.Common

/-
This file gives deterministic machines that may halt, and rules for their runs.
-/

namespace FzServer.Foundation

/-- A machine answers each event and stops for good after an output that halts it. -/
structure Machine (State Event Output : Type) where
  step : State → Event → State × Output
  halts : Output → Bool

/-- A stage records one step of a run. -/
structure Stage (State Event Output : Type) where
  before : State
  event : Event
  after : State
  output : Output

namespace Machine

variable {State Event Output Ghost : Type} (machine : Machine State Event Output)

def stage (state : State) (event : Event) : Stage State Event Output where
  before := state
  event := event
  after := (machine.step state event).1
  output := (machine.step state event).2

@[simp] theorem stage_before (state : State) (event : Event) :
    (machine.stage state event).before = state := rfl

@[simp] theorem stage_event (state : State) (event : Event) :
    (machine.stage state event).event = event := rfl

/-- The run lists its stages up to the one that halts. -/
def run : State → List Event → List (Stage State Event Output)
  | _, [] => []
  | state, event :: events =>
      let now := machine.stage state event
      now :: if machine.halts now.output then [] else run now.after events

/-- This is the state behind the last stage of the run. -/
def final : State → List Event → State
  | state, [] => state
  | state, event :: events =>
      let now := machine.stage state event
      if machine.halts now.output then now.after else final now.after events

/-- Each entry of a run is the stage of its state and its event. -/
theorem mem_run_stage {state : State} {events : List Event} {now : Stage State Event Output}
    (member : now ∈ machine.run state events) : now = machine.stage now.before now.event := by
  induction events generalizing state with
  | nil => cases member
  | cons event events ih =>
      rcases List.mem_cons.mp member with rfl | later
      · rfl
      · by_cases halts : machine.halts (machine.stage state event).output = true
        · rw [if_pos halts] at later
          cases later
        · rw [if_neg halts] at later
          exact ih later

/-- A history value summarises the stages before each stage. -/
def observe (advance : Ghost → Stage State Event Output → Ghost) :
    Ghost → List (Stage State Event Output) → List (Ghost × Stage State Event Output)
  | _, [] => []
  | ghost, now :: stages => (ghost, now) :: observe advance (advance ghost now) stages

/-- This property holds at each stage of the run. -/
def Always (advance : Ghost → Stage State Event Output → Ghost) (ghost : Ghost) (state : State)
    (events : List Event) (property : Ghost → Stage State Event Output → Prop) : Prop :=
  ∀ entry ∈ observe advance ghost (machine.run state events), property entry.1 entry.2

instance (advance : Ghost → Stage State Event Output → Ghost) (ghost : Ghost) (state : State)
    (events : List Event) (property : Ghost → Stage State Event Output → Prop)
    [∀ ghost now, Decidable (property ghost now)] :
    Decidable (machine.Always advance ghost state events property) :=
  inferInstanceAs (Decidable
    (∀ entry ∈ observe advance ghost (machine.run state events), property entry.1 entry.2))

variable {machine} {advance : Ghost → Stage State Event Output → Ghost}
  {property : Ghost → Stage State Event Output → Prop}

@[simp] theorem always_nil (ghost : Ghost) (state : State) :
    machine.Always advance ghost state [] property := fun _ member => nomatch member

/-- The first stage and the stages behind it decide the run. -/
theorem always_cons (ghost : Ghost) (state : State) (event : Event) (events : List Event) :
    machine.Always advance ghost state (event :: events) property ↔
      property ghost (machine.stage state event) ∧
        (machine.halts (machine.stage state event).output = false →
          machine.Always advance (advance ghost (machine.stage state event))
            (machine.stage state event).after events property) := by
  unfold Always
  rw [run, observe, List.forall_mem_cons]
  refine and_congr_right fun _ => ?_
  cases machine.halts (machine.stage state event).output with
  | true => simp [observe]
  | false => simp

variable (invariant : Ghost → State → Prop) {good allowed : Ghost → Stage State Event Output → Prop}

/-- An invariant carries a property of single stages to whole runs. -/
theorem always_of_invariant
    (holds : ∀ ghost state event, invariant ghost state →
      allowed ghost (machine.stage state event) → good ghost (machine.stage state event))
    (keeps : ∀ ghost state event, invariant ghost state →
      allowed ghost (machine.stage state event) →
      machine.halts (machine.stage state event).output = false →
      invariant (advance ghost (machine.stage state event)) (machine.stage state event).after)
    (events : List Event) (ghost : Ghost) (state : State) (starts : invariant ghost state)
    (steps : machine.Always advance ghost state events allowed) :
    machine.Always advance ghost state events good := by
  induction events generalizing ghost state with
  | nil => exact always_nil ghost state
  | cons event events ih =>
      obtain ⟨first, rest⟩ := (always_cons ghost state event events).mp steps
      refine (always_cons ghost state event events).mpr ⟨holds ghost state event starts first, ?_⟩
      intro goes
      exact ih _ _ (keeps ghost state event starts first goes) (rest goes)

/-- Two properties that agree under the invariant agree on whole runs. -/
theorem always_iff_of_invariant
    (agrees : ∀ ghost state event, invariant ghost state →
      (good ghost (machine.stage state event) ↔ allowed ghost (machine.stage state event)))
    (keeps : ∀ ghost state event, invariant ghost state →
      allowed ghost (machine.stage state event) →
      machine.halts (machine.stage state event).output = false →
      invariant (advance ghost (machine.stage state event)) (machine.stage state event).after)
    (events : List Event) (ghost : Ghost) (state : State) (starts : invariant ghost state) :
    machine.Always advance ghost state events good ↔
      machine.Always advance ghost state events allowed := by
  constructor
  · exact always_of_invariant invariant
      (fun ghost state event inside => (agrees ghost state event inside).mp)
      (fun ghost state event inside stageGood =>
        keeps ghost state event inside ((agrees ghost state event inside).mp stageGood))
      events ghost state starts
  · exact always_of_invariant invariant
      (fun ghost state event inside => (agrees ghost state event inside).mpr) keeps
      events ghost state starts

end Machine

end FzServer.Foundation
