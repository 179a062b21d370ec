import Mathlib.Data.List.Basic
import Mathlib.Tactic.Common

/-
This file composes self-delimiting frames into streams.
It also merges the frame sequences of two writers.
-/

namespace FzServer.Foundation

/-- A codec writes one frame and reads one frame from the front of a stream. -/
structure FrameCodec (Frame Symbol : Type) where
  encode : Frame → List Symbol
  decode : List Symbol → Option (Frame × List Symbol)
  /-- These frames have an encoding. -/
  Valid : Frame → Prop
  /-- The decoder finds the end of a valid frame whatever follows it. -/
  decode_encode : ∀ frame rest, Valid frame → decode (encode frame ++ rest) = some (frame, rest)
  /-- A frame is never empty on the stream. -/
  encode_ne_nil : ∀ frame, encode frame ≠ []

namespace FrameCodec

variable {Frame Symbol : Type} (codec : FrameCodec Frame Symbol)

/-- The reader takes frames until the stream is empty. -/
def decodeWithin : Nat → List Symbol → Option (List Frame)
  | _, [] => some []
  | 0, _ :: _ => none
  | fuel + 1, symbol :: symbols =>
      match codec.decode (symbol :: symbols) with
      | none => none
      | some (frame, rest) => (decodeWithin fuel rest).map (frame :: ·)

/-- Each frame takes at least one symbol, so the stream length is enough fuel. -/
def decodeAll (stream : List Symbol) : Option (List Frame) :=
  codec.decodeWithin stream.length stream

/-- This stream carries the frames one after another. -/
def encodeAll (frames : List Frame) : List Symbol := frames.flatMap codec.encode

@[simp] theorem encodeAll_cons (frame : Frame) (frames : List Frame) :
    codec.encodeAll (frame :: frames) = codec.encode frame ++ codec.encodeAll frames := rfl

theorem encodeAll_length (frames : List Frame) :
    frames.length ≤ (codec.encodeAll frames).length := by
  induction frames with
  | nil => simp
  | cons frame frames ih =>
      have positive := List.length_pos_iff.mpr (codec.encode_ne_nil frame)
      simp only [encodeAll_cons, List.length_append, List.length_cons]
      omega

/-- The reader needs one unit of fuel for each frame. -/
theorem decodeWithin_encodeAll (frames : List Frame) (valid : ∀ frame ∈ frames, codec.Valid frame)
    (fuel : Nat) (enough : frames.length ≤ fuel) :
    codec.decodeWithin fuel (codec.encodeAll frames) = some frames := by
  induction frames generalizing fuel with
  | nil => cases fuel <;> rfl
  | cons frame frames ih =>
      obtain ⟨fuel, rfl⟩ : ∃ rest, fuel = rest + 1 :=
        ⟨fuel - 1, by simp only [List.length_cons] at enough; omega⟩
      have first := codec.decode_encode frame (codec.encodeAll frames) (valid frame (by simp))
      have tail := ih (fun other member => valid other (List.mem_cons_of_mem _ member)) fuel
        (by simpa using enough)
      rw [encodeAll_cons]
      match shape : codec.encode frame ++ codec.encodeAll frames with
      | [] =>
          exact absurd (List.append_eq_nil_iff.mp shape).1 (codec.encode_ne_nil frame)
      | symbol :: symbols =>
          rw [shape] at first
          simp [decodeWithin, first, tail]

/-- The reader gets every frame back and leaves nothing over. -/
theorem decodeAll_encodeAll (frames : List Frame) (valid : ∀ frame ∈ frames, codec.Valid frame) :
    codec.decodeAll (codec.encodeAll frames) = some frames :=
  codec.decodeWithin_encodeAll frames valid _ (codec.encodeAll_length frames)

end FrameCodec

/-- The third list takes the elements of the first two in any order that keeps both. -/
inductive Interleaving {A : Type} : List A → List A → List A → Prop
  | nil : Interleaving [] [] []
  | left {value : A} {first second merged : List A} :
      Interleaving first second merged → Interleaving (value :: first) second (value :: merged)
  | right {value : A} {first second merged : List A} :
      Interleaving first second merged → Interleaving first (value :: second) (value :: merged)

namespace Interleaving

variable {A B : Type} {first second merged : List A}

theorem mem_iff (mixed : Interleaving first second merged) (value : A) :
    value ∈ merged ↔ value ∈ first ∨ value ∈ second := by
  induction mixed with
  | nil => simp
  | left _ ih => simp [ih, or_assoc]
  | right _ ih => simp [ih, or_left_comm]

/-- One writer may finish before the other one starts. -/
theorem append : ∀ first second : List A, Interleaving first second (first ++ second)
  | [], [] => .nil
  | [], _ :: second => .right (append [] second)
  | _ :: first, second => .left (append first second)

/-- An interleaving of two images is the image of an interleaving. -/
theorem of_map {f : A → B} {first second : List A} {merged : List B}
    (mixed : Interleaving (first.map f) (second.map f) merged) :
    ∃ source, Interleaving first second source ∧ merged = source.map f := by
  generalize firstEq : first.map f = firstImage at mixed
  generalize secondEq : second.map f = secondImage at mixed
  induction mixed generalizing first second with
  | nil =>
      rw [List.map_eq_nil_iff] at firstEq secondEq
      subst firstEq secondEq
      exact ⟨[], .nil, rfl⟩
  | left _ ih =>
      obtain ⟨value, rest, rfl, rfl, restEq⟩ := List.map_eq_cons_iff.mp firstEq
      obtain ⟨source, mixed, rfl⟩ := ih restEq secondEq
      exact ⟨value :: source, .left mixed, rfl⟩
  | right _ ih =>
      obtain ⟨value, rest, rfl, rfl, restEq⟩ := List.map_eq_cons_iff.mp secondEq
      obtain ⟨source, mixed, rfl⟩ := ih firstEq restEq
      exact ⟨value :: source, .right mixed, rfl⟩

theorem length_eq (mixed : Interleaving first second merged) :
    merged.length = first.length + second.length := by
  induction mixed with
  | nil => rfl
  | left _ ih => simp only [List.length_cons, ih]; omega
  | right _ ih => simp only [List.length_cons, ih]; omega

/-- A test that holds on the first list only selects that list. -/
theorem filter_left (mixed : Interleaving first second merged) (keep : A → Bool)
    (all : ∀ value ∈ first, keep value = true) (none : ∀ value ∈ second, keep value = false) :
    merged.filter keep = first := by
  induction mixed with
  | nil => rfl
  | left _ ih =>
      rw [List.filter_cons_of_pos (all _ (by simp)),
        ih (fun value member => all value (List.mem_cons_of_mem _ member)) none]
  | right _ ih =>
      rw [List.filter_cons_of_neg (by simp [none _ (List.mem_cons_self ..)]),
        ih all (fun value member => none value (List.mem_cons_of_mem _ member))]

theorem symm (mixed : Interleaving first second merged) : Interleaving second first merged := by
  induction mixed with
  | nil => exact .nil
  | left _ ih => exact .right ih
  | right _ ih => exact .left ih

/-- A test that holds on the second list only selects that list. -/
theorem filter_right (mixed : Interleaving first second merged) (keep : A → Bool)
    (none : ∀ value ∈ first, keep value = false) (all : ∀ value ∈ second, keep value = true) :
    merged.filter keep = second :=
  mixed.symm.filter_left keep all none

end Interleaving

end FzServer.Foundation
