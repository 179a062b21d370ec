import Mathlib.Tactic.Common

/-
This file gives loops that make one turn after another, and rules for their ends.
-/

namespace FzServer.Foundation

variable {State Result : Type}

/-- A turn ends the loop with a result or goes on in another state. -/
def loop (turn : State → Result ⊕ State) : Nat → State → Option Result
  | 0, _ => none
  | fuel + 1, state =>
      match turn state with
      | .inl result => some result
      | .inr next => loop turn fuel next

/-- The loop makes a turn in each of these states. -/
inductive Visits (turn : State → Result ⊕ State) (start : State) : State → Prop where
  | start : Visits turn start start
  | goes {state next : State} (visited : Visits turn start state) (on : turn state = .inr next) :
      Visits turn start next

variable {turn : State → Result ⊕ State}

theorem Visits.invariant {start state : State} (visits : Visits turn start state)
    (holds : State → Prop) (first : holds start)
    (keeps : ∀ state next, holds state → turn state = .inr next → holds next) : holds state := by
  induction visits with
  | start => exact first
  | goes visited on ih => exact keeps _ _ ih on

theorem loop_inl {fuel : Nat} {state : State} {result : Result} (ends : turn state = .inl result) :
    loop turn (fuel + 1) state = some result := by
  rw [loop, ends]

theorem loop_inr {fuel : Nat} {state next : State} (on : turn state = .inr next) :
    loop turn (fuel + 1) state = loop turn fuel next := by
  rw [loop, on]

/-- A loop that ends by a turn has the result of that turn. -/
theorem loop_stops {fuel : Nat} {state : State} {early result : Result}
    (now : turn state = .inl early) (ends : loop turn fuel state = some result) :
    result = early := by
  cases fuel with
  | zero => nomatch ends
  | succ fuel => exact Option.some.inj (ends.symm.trans (loop_inl now))

/-- A loop that goes on ends from the next state with the same result. -/
theorem loop_goes {fuel : Nat} {state next : State} {result : Result}
    (now : turn state = .inr next) (ends : loop turn fuel state = some result) :
    ∃ less, loop turn less next = some result := by
  cases fuel with
  | zero => nomatch ends
  | succ fuel => exact ⟨fuel, (loop_inr now).symm.trans ends⟩

/-- The loop ends behind each of its turns with the same result. -/
theorem Visits.loop {start state : State} (visits : Visits turn start state) {fuel : Nat}
    {result : Result} (ends : Foundation.loop turn fuel start = some result) :
    ∃ less, Foundation.loop turn less state = some result := by
  induction visits with
  | start => exact ⟨fuel, ends⟩
  | goes _ on ih =>
      obtain ⟨less, rest⟩ := ih
      exact loop_goes on rest

/-- More fuel does not change a result. -/
theorem loop_mono {fuel more : Nat} (enough : fuel ≤ more) {state : State} {result : Result}
    (ends : loop turn fuel state = some result) : loop turn more state = some result := by
  induction fuel generalizing more state with
  | zero => nomatch ends
  | succ fuel ih =>
      obtain ⟨rest, rfl⟩ := Nat.exists_eq_add_of_le' enough
      cases now : turn state with
      | inl early =>
          rw [loop_inl now] at ends
          rw [← Nat.add_assoc, loop_inl now]
          exact ends
      | inr next =>
          rw [loop_inr now] at ends
          rw [← Nat.add_assoc, loop_inr now]
          exact ih (Nat.le_add_left fuel rest) ends

/-- What every turn keeps, and what it gives at the end, is known of the result. -/
theorem loop_results (holds : State → Prop) (good : Result → Prop)
    (goes : ∀ state next, holds state → turn state = .inr next → holds next)
    (leaves : ∀ state result, holds state → turn state = .inl result → good result)
    {fuel : Nat} {start : State} {result : Result} (first : holds start)
    (ends : loop turn fuel start = some result) : good result := by
  induction fuel generalizing start with
  | zero => nomatch ends
  | succ fuel ih =>
      cases now : turn start with
      | inl early =>
          rw [loop_inl now] at ends
          cases ends
          exact leaves _ _ first now
      | inr next =>
          rw [loop_inr now] at ends
          exact ih (goes _ _ first now) ends

/-- A loop ends when each turn that goes on costs something of a finite stock. -/
theorem loop_ends (stock : State → Nat) {cost : Nat} (positive : 0 < cost) (holds : State → Prop)
    (turns : ∀ state next, holds state → turn state = .inr next →
      holds next ∧ stock next + cost ≤ stock state)
    {start : State} (first : holds start) :
    ∃ result, loop turn (stock start / cost + 1) start = some result := by
  have ends (fuel : Nat) (state : State) (inside : holds state)
      (enough : stock state < cost * fuel) :
      ∃ result, loop turn fuel state = some result := by
    induction fuel generalizing state with
    | zero => exact absurd enough (Nat.not_lt_zero _)
    | succ fuel ih =>
        cases now : turn state with
        | inl result => exact ⟨result, loop_inl now⟩
        | inr next =>
            obtain ⟨keeps, spends⟩ := turns state next inside now
            rw [loop_inr now]
            rw [Nat.mul_succ] at enough
            exact ih next keeps (by omega)
  exact ends _ start first (Nat.lt_mul_div_succ (stock start) positive)

/-- A loop whose turns spend a finite stock ends with what its turns keep. -/
theorem loop_ends_with (stock : State → Nat) (holds : State → Prop) (good : Result → Prop)
    (goes : ∀ state next, holds state → turn state = .inr next →
      holds next ∧ stock next + 1 ≤ stock state)
    (leaves : ∀ state result, holds state → turn state = .inl result → good result)
    {start : State} (first : holds start) :
    ∃ result, loop turn (stock start + 1) start = some result ∧ good result := by
  obtain ⟨result, ends⟩ := loop_ends stock Nat.one_pos holds goes first
  rw [Nat.div_one] at ends
  exact ⟨result, ends, loop_results holds good
    (fun state next here on => (goes state next here on).1) leaves first ends⟩

/-- Two loops in step end with results that belong together. -/
theorem loop_related {State' Result' : Type} {turn' : State' → Result' ⊕ State'}
    (related : State → State' → Prop) (same : Result → Result' → Prop)
    (goes : ∀ state state' next, related state state' → turn state = .inr next →
      ∃ next', turn' state' = .inr next' ∧ related next next')
    (leaves : ∀ state state' result, related state state' → turn state = .inl result →
      ∃ result', turn' state' = .inl result' ∧ same result result')
    {fuel : Nat} {start : State} {start' : State'} {result : Result} (first : related start start')
    (ends : loop turn fuel start = some result) :
    ∃ result', loop turn' fuel start' = some result' ∧ same result result' := by
  induction fuel generalizing start start' with
  | zero => nomatch ends
  | succ fuel ih =>
      cases now : turn start with
      | inl early =>
          obtain ⟨early', now', together⟩ := leaves _ _ _ first now
          cases (loop_inl now).symm.trans ends
          exact ⟨early', loop_inl now', together⟩
      | inr next =>
          obtain ⟨next', now', still⟩ := goes _ _ _ first now
          rw [loop_inr now']
          exact ih still ((loop_inr now).symm.trans ends)

/-- A loop is the image of another one when each of its turns is. -/
theorem loop_map {State' Result' : Type} {turn' : State' → Result' ⊕ State'}
    (image : State → State') (result : Result → Result')
    (turns : ∀ state, turn' (image state) = (turn state).map result image)
    (fuel : Nat) (start : State) :
    loop turn' fuel (image start) = (loop turn fuel start).map result := by
  induction fuel generalizing start with
  | zero => rfl
  | succ fuel ih =>
      have first := turns start
      cases now : turn start with
      | inl early =>
          rw [now] at first
          rw [loop_inl now, loop_inl first, Option.map_some]
      | inr next =>
          rw [now] at first
          rw [loop_inr now, loop_inr first, ih]

end FzServer.Foundation
