import FzServer.Foundation.Loop

/-
This file gives loops that read an item and write it in each turn.
It splits such a loop into a reader and a writer.
-/

namespace FzServer.Foundation

variable {Source Item End Sink : Type}

/-- The reader gives these items one after another, and then it ends. -/
inductive Reads (read : Source → End ⊕ Item × Source) : Source → List Item → End → Prop where
  | ends {source : Source} {last : End} (now : read source = .inl last) : Reads read source [] last
  | gives {source next : Source} {item : Item} {items : List Item} {last : End}
      (now : read source = .inr (item, next)) (later : Reads read next items last) :
      Reads read source (item :: items) last

/-- The writer takes the items one after another and stops at the first that it refuses. -/
def writeAll (write : Sink → Item → Bool × Sink) : Sink → List Item → Bool × Sink
  | sink, [] => (true, sink)
  | sink, item :: items =>
      let result := write sink item
      if result.1 then writeAll write result.2 items else (false, result.2)

/-- One turn reads one item and writes it. -/
def pipe (read : Source → End ⊕ Item × Source) (write : Sink → Item → Bool × Sink)
    (state : Source × Sink) : Option End × Sink ⊕ Source × Sink :=
  match read state.1 with
  | .inl last => .inl (some last, state.2)
  | .inr (item, next) =>
      let result := write state.2 item
      if result.1 then .inr (next, result.2) else .inl (none, result.2)

/-- A refused item hides the end of the reader. -/
def pipeEnd (last : End) (written : Bool × Sink) : Option End × Sink :=
  (if written.1 then some last else none, written.2)

variable {read : Source → End ⊕ Item × Source} {write : Sink → Item → Bool × Sink}
  {source next : Source} {sink : Sink} {item : Item} {items : List Item} {last : End}

theorem writeAll_taken (taken : (write sink item).1 = true) :
    writeAll write sink (item :: items) = writeAll write (write sink item).2 items := by
  rw [writeAll, if_pos taken]

theorem writeAll_refused (refused : (write sink item).1 = false) :
    writeAll write sink (item :: items) = (false, (write sink item).2) := by
  rw [writeAll, if_neg (by rw [refused]; decide)]

theorem pipe_last (now : read source = .inl last) :
    pipe read write (source, sink) = .inl (some last, sink) := by
  simp only [pipe, now]

theorem pipe_item (now : read source = .inr (item, next)) :
    pipe read write (source, sink) =
      if (write sink item).1 then .inr (next, (write sink item).2)
      else .inl (none, (write sink item).2) := by
  simp only [pipe, now]

/-- A reader ends when each item costs something of a finite stock. -/
theorem Reads.of_stock (stock : Source → Nat)
    (costs : ∀ source item next, read source = .inr (item, next) → stock next + 1 ≤ stock source)
    (source : Source) :
    ∃ items last, Reads read source items last ∧ items.length ≤ stock source := by
  have ends (bound : Nat) (source : Source) (within : stock source ≤ bound) :
      ∃ items last, Reads read source items last ∧ items.length ≤ stock source := by
    induction bound generalizing source with
    | zero =>
        cases now : read source with
        | inl last => exact ⟨[], last, .ends now, Nat.zero_le _⟩
        | inr found =>
            have spent := costs source found.1 found.2 now
            omega
    | succ bound ih =>
        cases now : read source with
        | inl last => exact ⟨[], last, .ends now, Nat.zero_le _⟩
        | inr found =>
            have spent := costs source found.1 found.2 now
            obtain ⟨items, last, later, few⟩ := ih found.2 (by omega)
            refine ⟨found.1 :: items, last, .gives now later, ?_⟩
            rw [List.length_cons]
            omega
  exact ends _ source (Nat.le_refl _)

/-- A loop that reads and writes in turn is the reader in front of the writer. -/
theorem Reads.loop_pipe (reads : Reads read source items last) {fuel : Nat}
    (enough : items.length < fuel) (sink : Sink) :
    loop (pipe read write) fuel (source, sink) =
      some (pipeEnd last (writeAll write sink items)) := by
  induction reads generalizing fuel sink with
  | ends now =>
      obtain ⟨fuel, rfl⟩ := Nat.exists_eq_add_one_of_ne_zero (Nat.ne_of_gt enough)
      exact loop_inl (pipe_last now)
  | @gives source next item items last now later ih =>
      obtain ⟨fuel, rfl⟩ := Nat.exists_eq_add_one_of_ne_zero (Nat.ne_zero_of_lt enough)
      have turn := @pipe_item _ _ _ _ read write source next sink item now
      cases taken : (write sink item).1 with
      | true =>
          rw [taken, if_pos rfl] at turn
          rw [loop_inr turn, ih (Nat.lt_of_succ_lt_succ enough), writeAll_taken taken]
      | false =>
          rw [taken, if_neg (by decide)] at turn
          rw [loop_inl turn, writeAll_refused taken]
          rfl

/-- The items cut the cells of the source into pieces and leave a rest. -/
theorem Reads.tiles {Cell : Type} (piece : Item → List Cell) (left : Source → List Cell)
    (takes : ∀ source item next, read source = .inr (item, next) →
      left source = piece item ++ left next)
    (rest : End → List Cell → Prop)
    (leaves : ∀ source last, read source = .inl last → rest last (left source))
    (reads : Reads read source items last) :
    ∃ remains, left source = items.flatMap piece ++ remains ∧ rest last remains := by
  induction reads with
  | @ends source last now => exact ⟨left source, rfl, leaves source last now⟩
  | @gives source next item items last now _ ih =>
      obtain ⟨remains, split, ended⟩ := ih
      exact ⟨remains, by rw [takes source item next now, split, List.flatMap_cons,
        List.append_assoc], ended⟩

/-- What holds of each item that the reader can give holds of all its items. -/
theorem Reads.forall (good : Item → Prop)
    (gives : ∀ source item next, read source = .inr (item, next) → good item)
    (reads : Reads read source items last) : ∀ item ∈ items, good item := by
  induction reads with
  | ends => simp
  | gives now _ ih => exact List.forall_mem_cons.mpr ⟨gives _ _ _ now, ih⟩

end FzServer.Foundation
