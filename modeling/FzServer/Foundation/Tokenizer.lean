import FzServer.Foundation.CString

/-
This file splits a bounded buffer into tokens and notices each read behind it.
-/

namespace FzServer.Foundation

/-- The scan stops on the first other character. No value stands for a read behind the buffer. -/
def strspn (delimiter : UInt8) : List UInt8 → Option (List UInt8)
  | [] => none
  | character :: rest =>
      if character = delimiter then strspn delimiter rest else some (character :: rest)

/-- A token ends before a terminator or a delimiter, and the next call starts behind the latter. -/
def strcspn (delimiter : UInt8) : List UInt8 → Option (List UInt8 × List UInt8)
  | [] => none
  | character :: rest =>
      if character = 0 then some ([], character :: rest)
      else if character = delimiter then some ([], rest)
      else (strcspn delimiter rest).map fun found => (character :: found.1, found.2)

/-- One call reads behind the buffer, finds the end of the text, or returns a token. -/
inductive TokenCall
  | outside
  | last
  | token (line rest : List UInt8)

/-- This is one call of the tokenizer on what the earlier calls left of the buffer. -/
def nextToken (delimiter : UInt8) (buffer : List UInt8) : TokenCall :=
  match strspn delimiter buffer with
  | none => .outside
  | some start =>
      if start.head? = some 0 then .last
      else
        match strcspn delimiter start with
        | none => .outside
        | some (line, rest) => .token line rest

section Calls

variable {delimiter : UInt8}

/-- The token takes every character in front of the next special one. -/
theorem strcspn_skip {first : List UInt8} (solid : 0 ∉ first) (absent : delimiter ∉ first)
    (rest : List UInt8) :
    strcspn delimiter (first ++ rest) =
      (strcspn delimiter rest).map fun found => (first ++ found.1, found.2) := by
  induction first with
  | nil => simp
  | cons character first ih =>
      have notZero := List.ne_of_not_mem_cons solid
      have other := List.ne_of_not_mem_cons absent
      rw [List.cons_append, strcspn, if_neg (Ne.symm notZero), if_neg (Ne.symm other),
        ih (List.not_mem_of_not_mem_cons solid) (List.not_mem_of_not_mem_cons absent),
        Option.map_map]
      rfl

theorem strcspn_delimiter {first : List UInt8} (solid : 0 ∉ first) (absent : delimiter ∉ first)
    (nonzero : delimiter ≠ 0) (rest : List UInt8) :
    strcspn delimiter (first ++ delimiter :: rest) = some (first, rest) := by
  rw [strcspn_skip solid absent, strcspn, if_neg nonzero, if_pos rfl, Option.map_some,
    List.append_nil]

theorem strcspn_terminator {first : List UInt8} (solid : 0 ∉ first) (absent : delimiter ∉ first)
    (tail : List UInt8) :
    strcspn delimiter (first ++ 0 :: tail) = some (first, 0 :: tail) := by
  rw [strcspn_skip solid absent, strcspn, if_pos rfl, Option.map_some, List.append_nil]

/-- The calls on a terminated text return its pieces one by one. -/
theorem nextToken_terminated {text : List UInt8} (solid : 0 ∉ text) (nonzero : delimiter ≠ 0)
    (tail : List UInt8) :
    (strtok delimiter text = [] ∧ nextToken delimiter (text ++ 0 :: tail) = .last) ∨
      ∃ line behind, strtok delimiter text = line :: strtok delimiter behind ∧ 0 ∉ behind ∧
        nextToken delimiter (text ++ 0 :: tail) = .token line (behind ++ 0 :: tail) := by
  induction text with
  | nil =>
      left
      rw [List.nil_append, nextToken, strspn, if_neg (Ne.symm nonzero)]
      exact ⟨rfl, rfl⟩
  | cons character text ih =>
      have notZero := List.ne_of_not_mem_cons solid
      by_cases skips : character = delimiter
      · have strip : strtok delimiter (character :: text) = strtok delimiter text := by
          rw [skips]
          exact strtok_append delimiter [] text
        have same : nextToken delimiter (character :: text ++ 0 :: tail) =
            nextToken delimiter (text ++ 0 :: tail) := by
          rw [List.cons_append, nextToken, strspn, if_pos skips]
          rfl
        rw [strip, same]
        exact ih (List.not_mem_of_not_mem_cons solid)
      · right
        have start : nextToken delimiter (character :: text ++ 0 :: tail) =
            match strcspn delimiter (character :: text ++ 0 :: tail) with
            | none => .outside
            | some (line, rest) => .token line rest := by
          rw [nextToken, List.cons_append, strspn, if_neg skips]
          exact if_neg fun zero => notZero (Option.some.inj zero).symm
        rw [start]
        by_cases broken : delimiter ∈ character :: text
        · obtain ⟨first, second, split, absent⟩ := List.eq_append_cons_of_mem broken
          rw [split] at solid ⊢
          have firstSolid : 0 ∉ first := fun zero => solid (List.mem_append_left _ zero)
          have nonempty : first ≠ [] := by
            rintro rfl
            exact skips (List.cons.inj split).1
          refine ⟨first, second, ?_, fun zero => solid ?_, ?_⟩
          · rw [strtok_append, strtok_single _ _ nonempty absent, List.singleton_append]
          · exact List.mem_append_right _ (List.mem_cons_of_mem _ zero)
          · rw [List.append_assoc, List.cons_append, strcspn_delimiter firstSolid absent nonzero]
        · refine ⟨character :: text, [], ?_, List.not_mem_nil, ?_⟩
          · rw [strtok_single _ _ (List.cons_ne_nil _ _) broken, strtok_nil]
          · rw [strcspn_terminator solid broken]
            rfl

theorem strspn_suffix {buffer start : List UInt8} (skips : strspn delimiter buffer = some start) :
    start <:+ buffer ∧ start.head? ≠ some delimiter ∧ start ≠ [] := by
  induction buffer with
  | nil => nomatch skips
  | cons character buffer ih =>
      rw [strspn] at skips
      split_ifs at skips with same
      · obtain ⟨suffix, rest⟩ := ih skips
        exact ⟨suffix.trans (List.suffix_cons _ _), rest⟩
      · cases skips
        exact ⟨List.suffix_rfl, fun first => same (Option.some.inj first), List.cons_ne_nil _ _⟩

theorem strcspn_suffix {start line rest : List UInt8}
    (cuts : strcspn delimiter start = some (line, rest)) : rest <:+ start := by
  induction start generalizing line with
  | nil => nomatch cuts
  | cons character start ih =>
      rw [strcspn] at cuts
      split_ifs at cuts with zero delimited
      · cases cuts
        exact List.suffix_rfl
      · cases cuts
        exact List.suffix_cons _ _
      · obtain ⟨found, later, same⟩ := Option.map_eq_some_iff.mp cuts
        cases same
        exact (ih later).trans (List.suffix_cons _ _)

/-- Each token takes at least one character of the buffer. -/
theorem nextToken_shorter {buffer line rest : List UInt8}
    (call : nextToken delimiter buffer = .token line rest) :
    rest <:+ buffer ∧ rest.length + 1 ≤ buffer.length := by
  unfold nextToken at call
  split at call
  next => nomatch call
  next start skips =>
    obtain ⟨suffix, notDelimiter, present⟩ := strspn_suffix skips
    split_ifs at call with notZero
    split at call
    next => nomatch call
    next found left cuts =>
      cases call
      have behind := (strcspn_suffix cuts).trans suffix
      cases start with
      | nil => exact absurd rfl present
      | cons character start =>
          rw [strcspn, if_neg fun zero => notZero (congrArg some zero),
            if_neg fun same => notDelimiter (congrArg some same)] at cuts
          obtain ⟨token, later, same⟩ := Option.map_eq_some_iff.mp cuts
          cases same
          have shorter := (strcspn_suffix later).length_le
          have inside := suffix.length_le
          rw [List.length_cons] at inside
          exact ⟨behind, by omega⟩

/-- A text without a terminator never ends. -/
theorem nextToken_unterminated {buffer : List UInt8} (solid : 0 ∉ buffer) :
    nextToken delimiter buffer ≠ .last := by
  intro call
  unfold nextToken at call
  split at call
  next => nomatch call
  next start skips =>
    split_ifs at call with zero
    · obtain ⟨tail, shape⟩ := List.head?_eq_some_iff.mp zero
      exact solid ((strspn_suffix skips).1.subset (by simp [shape]))
    · split at call
      next => nomatch call
      next => nomatch call

end Calls

end FzServer.Foundation
