import FzServer.Construction.Container.StartCode
import FzServer.Proof.Streaming.VideoFile
import Mathlib.Data.Nat.Find
import Mathlib.Order.Bounds.Basic

/-
This file says which bytes decide where a NAL unit ends.
-/

namespace FzServer.Streaming

open Foundation H264

/-- A start code lies wholly inside the first bytes of the buffer. -/
def CodeWithin (rec : Memory UInt8) (size address : Nat) : Prop :=
  startCode3 (rec.advance address) = true ∧ address + 3 ≤ size ∨
    startCode4 (rec.advance address) = true ∧ address + 4 ≤ size

/-- The two buffers hold the same chunk. -/
def SameChunk (size : Nat) (first second : Memory UInt8) : Prop :=
  ∀ index < size, first index = second index

section Codes

variable {rec other : Memory UInt8} {size address earlier step : Nat}

theorem CodeWithin.codeAt (within : CodeWithin rec size address) : codeAt rec address = true := by
  rw [H264.codeAt, Bool.or_eq_true]
  exact within.imp And.left And.left

theorem CodeWithin.room (within : CodeWithin rec size address) : address + 3 ≤ size := by
  rcases within with short | long
  · exact short.2
  · omega

theorem CodeWithin.of_codeAt (stands : H264.codeAt rec address = true) (room : address + 4 ≤ size) :
    CodeWithin rec size address := by
  rw [H264.codeAt, Bool.or_eq_true] at stands
  rcases stands with short | long
  · exact Or.inl ⟨short, by omega⟩
  · exact Or.inr ⟨long, room⟩

theorem CodeWithin.of_same (same : SameChunk size rec other)
    (within : CodeWithin rec size address) : CodeWithin other size address := by
  rcases within with ⟨short, room⟩ | ⟨long, room⟩
  · refine Or.inl ⟨?_, room⟩
    rw [startCode3, decide_eq_true_iff] at short ⊢
    simp only [advance_apply] at short ⊢
    rwa [← same _ (by omega), ← same _ (by omega), ← same _ (by omega)]
  · refine Or.inr ⟨?_, room⟩
    rw [startCode4, decide_eq_true_iff] at long ⊢
    simp only [advance_apply] at long ⊢
    rwa [← same _ (by omega), ← same _ (by omega), ← same _ (by omega), ← same _ (by omega)]

theorem SameChunk.symm (same : SameChunk size rec other) : SameChunk size other rec :=
  fun index inside => (same index inside).symm

theorem frontLength_same (same : SameChunk size rec other) (room : 4 ≤ size) :
    frontLength rec = frontLength other := by
  unfold frontLength startCode3 startCode4
  rw [same 0 (by omega), same 1 (by omega), same 2 (by omega), same 3 (by omega)]

theorem exists_least {property : Nat → Prop} (holds : ∃ place, property place) :
    ∃ place, IsLeast {place | property place} place := by
  classical
  exact ⟨Nat.find holds, Nat.find_spec holds, fun place other => Nat.find_min' holds other⟩

/-- The cut ends at the least start code that lies inside the chunk. -/
theorem extract_content_least (fp : FileStream UInt8) (front : frontLength rec = some step)
    (least : IsLeast {place | step ≤ place ∧ CodeWithin rec size place} address) :
    extract_content rec fp size = some (address, fp.fseek ((address : Int) - (size : Int))) := by
  obtain ⟨⟨behind, within⟩, before⟩ := least
  have room := within.room
  have length := frontLength_cases front
  have place : step + (address - step) = address := by omega
  have first := extract_content_first fp size front (show address - step < size - 3 by omega)
    (by rw [place]; exact within.codeAt) fun index smaller => by
      rw [Bool.eq_false_iff]
      intro stands
      have inside : CodeWithin rec size (step + index) := CodeWithin.of_codeAt stands (by omega)
      have above : address ≤ step + index := before ⟨by omega, inside⟩
      omega
  rw [place] at first
  exact first

end Codes

section Cut

variable {fp : FileStream UInt8} {buffer rec other : Memory UInt8} {size length address step : Nat}

/-- The buffer holds the cells of the file from the position of the read on. -/
theorem chunk_cell {count index : Nat} (inside : index < (fp.fread count).1.length) :
    fp.content[fp.position + index]? = some (overlay buffer 0 (fp.fread count).1 index) := by
  have cell := overlay_inside buffer 0 (fp.fread count).1 index inside
  rw [Nat.zero_add] at cell
  rw [cell, ← List.getElem?_eq_getElem inside, FileStream.fread_cells, FileStream.unread]
  rw [FileStream.fread_cells, List.length_take] at inside
  rw [List.getElem?_take, if_pos (by omega), List.getElem?_drop]

theorem CodeWithin.of_cells (within : CodeWithin rec size address)
    (cells : ∀ index < 4, address + index < size →
      index < length ∧ other index = rec (address + index)) : CodeWithin other length 0 := by
  have front : other.advance 0 = other := by
    funext index
    rw [advance_apply, Nat.zero_add]
  rcases within with ⟨short, room⟩ | ⟨long, room⟩
  · have cell2 := cells 2 (by decide) (by omega)
    refine Or.inl ⟨?_, by omega⟩
    rw [front]
    rw [startCode3, decide_eq_true_iff] at short ⊢
    rw [(cells 0 (by decide) (by omega)).2, (cells 1 (by decide) (by omega)).2, cell2.2]
    exact short
  · have cell3 := cells 3 (by decide) (by omega)
    refine Or.inr ⟨?_, by omega⟩
    rw [front]
    rw [startCode4, decide_eq_true_iff] at long ⊢
    rw [(cells 0 (by decide) (by omega)).2, (cells 1 (by decide) (by omega)).2,
      (cells 2 (by decide) (by omega)).2, cell3.2]
    exact long

/-- The next read of the file starts with the code at which the cut ends. -/
theorem next_read_code {count next : Nat} (enough : 4 ≤ next)
    (within : CodeWithin (overlay buffer 0 (fp.fread count).1) (fp.fread count).1.length address)
    (behind : Memory UInt8) :
    let moved : FileStream UInt8 := { fp with position := fp.position + address }
    CodeWithin (overlay behind 0 (moved.fread next).1) (moved.fread next).1.length 0 := by
  intro moved
  refine within.of_cells fun index small inside => ?_
  have here : index < (moved.fread next).1.length := by
    rw [FileStream.fread_cells, FileStream.unread, List.length_take, List.length_drop] at inside ⊢
    change index < min next (fp.content.length - (fp.position + address))
    omega
  refine ⟨here, ?_⟩
  have first := @chunk_cell fp buffer count (address + index) inside
  have second := @chunk_cell moved behind next index here
  change fp.content[fp.position + address + index]? = _ at second
  rw [← Nat.add_assoc, second] at first
  exact Option.some.inj first

/-- The cut ends at the first following start code, and the file stands there. -/
theorem extract_content_cuts (fp : FileStream UInt8) (count : Nat) (buffer : Memory UInt8)
    (step : Nat) :
    let chunk := (fp.fread count).1
    let rec_ := overlay buffer 0 chunk
    frontLength rec_ = some step →
      (∃ place, step ≤ place ∧ CodeWithin rec_ chunk.length place) →
        ∃ place, IsLeast {place | step ≤ place ∧ CodeWithin rec_ chunk.length place} place ∧
          let moved : FileStream UInt8 := { fp with position := fp.position + place }
          extract_content rec_ (fp.fread count).2 chunk.length = some (place, moved) ∧
            ∀ next, 4 ≤ next → ∀ behind : Memory UInt8,
              CodeWithin (overlay behind 0 (moved.fread next).1) (moved.fread next).1.length 0 := by
  intro chunk rec_ front second
  obtain ⟨place, least⟩ := exists_least second
  refine ⟨place, least, ?_, fun next enough behind => ?_⟩
  · rw [extract_content_least (fp.fread count).2 front least, FileStream.fseek_fread]
  · exact next_read_code enough least.1.2 behind

/-- The second code of this file has four bytes and overlaps a zero byte in front of it. -/
theorem extract_content_cuts_sample :
    let fp : FileStream UInt8 := ⟨[0, 0, 1, 0x65, 0, 0, 0, 1, 0x41, 7], 0⟩
    let rec_ := overlay (fun _ => 0) 0 fp.content
    ∃ place, IsLeast {place | 3 ≤ place ∧ CodeWithin rec_ 10 place} place ∧
      let moved : FileStream UInt8 := { fp with position := 0 + place }
      extract_content rec_ (fp.fread 20).2 10 = some (place, moved) ∧
        ∀ next, 4 ≤ next → ∀ behind : Memory UInt8,
          CodeWithin (overlay behind 0 (moved.fread next).1) (moved.fread next).1.length 0 :=
  extract_content_cuts ⟨[0, 0, 1, 0x65, 0, 0, 0, 1, 0x41, 7], 0⟩ 20 (fun _ => 0) 3 (by decide)
    ⟨4, by decide, Or.inr ⟨by decide, by decide⟩⟩

end Cut

section Determined

variable {rec other : Memory UInt8} {size step : Nat}

/-- The result -1 has no size. -/
def cutSize (rec : Memory UInt8) (fp : FileStream UInt8) (size : Nat) : Option Nat :=
  (extract_content rec fp size).map Prod.fst

/-- Whatever stands behind the chunk, no search for a code in it gets there with success. -/
def SelfContained (rec : Memory UInt8) (size : Nat) : Prop :=
  size ≤ 3 ∨ frontLength rec = none ∨
    (∃ step place, frontLength rec = some step ∧ step ≤ place ∧ CodeWithin rec size place) ∨
    frontLength rec = some 3 ∧ rec (size - 1) ≠ 0

theorem cutSize_short (fp : FileStream UInt8) (short : size ≤ 3) : cutSize rec fp size = none := by
  have nothing : size - 3 = 0 := by omega
  rw [cutSize, extract_content_eq, nothing]
  cases frontLength rec <;> rfl

theorem cutSize_bare (fp : FileStream UInt8) (bare : frontLength rec = none) :
    cutSize rec fp size = none := by
  rw [cutSize, extract_content_eq, bare]
  rfl

/-- The search succeeds exactly when it visits a start code. -/
theorem cutSize_isSome_iff (fp : FileStream UInt8) (front : frontLength rec = some step) :
    (cutSize rec fp size).isSome = true ↔
      ∃ index, index < size - 3 ∧ codeAt rec (step + index) = true := by
  constructor
  · intro found
    by_contra absent
    have none_found := extract_content_none fp size front fun index inside => by
      rw [Bool.eq_false_iff]
      exact fun stands => absent ⟨index, inside, stands⟩
    rw [cutSize, none_found] at found
    exact absurd found (by decide)
  · intro visited
    obtain ⟨index, ⟨inside, stands⟩, least⟩ := exists_least visited
    rw [cutSize, extract_content_first fp size front inside stands fun earlier smaller => by
      rw [Bool.eq_false_iff]
      exact fun before => absurd (least ⟨smaller.trans inside, before⟩) (Nat.not_le.mpr smaller)]
    rfl

/-- A code that leaves the chunk needs a zero in the last byte. -/
theorem codeAt_straddles {place : Nat} (stands : codeAt rec place = true)
    (outside : ¬CodeWithin rec size place) (begins : place < size) : rec (size - 1) = 0 := by
  have short : size < place + 4 := by
    by_contra room
    exact outside (CodeWithin.of_codeAt stands (by omega))
  obtain ⟨first, second, third⟩ := (codeAt_iff rec place).mp stands
  obtain rfl | rfl | rfl : size = place + 1 ∨ size = place + 2 ∨ size = place + 3 := by omega
  · exact first
  · exact second
  · rcases third with one | ⟨zero, _⟩
    · refine absurd (Or.inl ⟨?_, Nat.le_refl _⟩) outside
      rw [startCode3, decide_eq_true_iff]
      exact ⟨first, second, one⟩
    · exact zero

theorem codes_same (same : SameChunk size rec other) :
    {place | step ≤ place ∧ CodeWithin other size place} =
      {place | step ≤ place ∧ CodeWithin rec size place} := by
  ext place
  exact and_congr_right fun _ => ⟨CodeWithin.of_same same.symm, CodeWithin.of_same same⟩

theorem cutSize_within (fp : FileStream UInt8) (same : SameChunk size rec other) (room : 4 ≤ size)
    (front : frontLength rec = some step)
    (within : ∃ place, step ≤ place ∧ CodeWithin rec size place) :
    cutSize other fp size = cutSize rec fp size := by
  obtain ⟨place, least⟩ := exists_least within
  have front' : frontLength other = some step := by rw [← frontLength_same same room, front]
  have least' : IsLeast {place | step ≤ place ∧ CodeWithin other size place} place := by
    rw [codes_same same]
    exact least
  rw [cutSize, cutSize, extract_content_least fp front least,
    extract_content_least fp front' least']

theorem cutSize_closed (fp : FileStream UInt8) (front : frontLength rec = some 3)
    (last : rec (size - 1) ≠ 0) (absent : ∀ place, 3 ≤ place → ¬CodeWithin rec size place) :
    cutSize rec fp size = none := by
  rw [← Option.not_isSome_iff_eq_none, cutSize_isSome_iff fp front]
  rintro ⟨index, inside, stands⟩
  exact last (codeAt_straddles stands (absent _ (by omega)) (by omega))

/-- Such a chunk hides what stands behind it. -/
theorem cutSize_selfContained (fp : FileStream UInt8) (contained : SelfContained rec size)
    (same : SameChunk size rec other) : cutSize other fp size = cutSize rec fp size := by
  by_cases short : size ≤ 3
  · rw [cutSize_short fp short, cutSize_short fp short]
  have room : 4 ≤ size := by omega
  rcases contained with few | bare | ⟨step, place, front, behind, within⟩ | ⟨front, last⟩
  · exact absurd few short
  · rw [cutSize_bare fp bare, cutSize_bare fp (by rw [← frontLength_same same room, bare])]
  · exact cutSize_within fp same room front ⟨place, behind, within⟩
  · by_cases within : ∃ place, 3 ≤ place ∧ CodeWithin rec size place
    · exact cutSize_within fp same room front within
    · have absent (place : Nat) (behind : 3 ≤ place) : ¬CodeWithin rec size place :=
        fun inside => within ⟨place, behind, inside⟩
      rw [cutSize_closed fp front last absent, cutSize_closed fp]
      · rw [← frontLength_same same room, front]
      · rw [← same _ (by omega)]
        exact last
      · exact fun place behind inside => absent place behind (inside.of_same same.symm)

/-- No byte behind the chunk belongs to a start code. -/
def quiet (rec : Memory UInt8) (size : Nat) : Memory UInt8 :=
  fun index => if index < size then rec index else 0xFF

/-- A start code stands as far behind the chunk as the search goes. -/
def loud (rec : Memory UInt8) (size step : Nat) : Memory UInt8 :=
  fun index => if index < size then rec index else if index = size + step - 2 then 1 else 0

theorem quiet_same (rec : Memory UInt8) (size : Nat) : SameChunk size rec (quiet rec size) :=
  fun _ inside => (if_pos inside).symm

theorem loud_same (rec : Memory UInt8) (size step : Nat) :
    SameChunk size rec (loud rec size step) :=
  fun _ inside => (if_pos inside).symm

theorem quiet_within {place : Nat} (stands : codeAt (quiet rec size) place = true) :
    CodeWithin rec size place := by
  have inside {index : Nat} (low : quiet rec size index = 0 ∨ quiet rec size index = 1) :
      index < size := by
    by_contra outside
    rw [quiet, if_neg outside] at low
    exact absurd low (by decide)
  apply CodeWithin.of_same (quiet_same rec size).symm
  obtain ⟨first, second, one | ⟨zero, one⟩⟩ := (codeAt_iff _ place).mp stands
  · have room := inside (Or.inr one)
    refine Or.inl ⟨?_, by omega⟩
    rw [startCode3, decide_eq_true_iff]
    exact ⟨first, second, one⟩
  · have room := inside (Or.inr one)
    refine Or.inr ⟨?_, by omega⟩
    rw [startCode4, decide_eq_true_iff]
    exact ⟨first, second, zero, one⟩

theorem loud_stands (room : 4 ≤ size) (length : step = 3 ∨ step = 4)
    (last : step = 3 → rec (size - 1) = 0) :
    codeAt (loud rec size step) (step + (size - 4)) = true := by
  rw [codeAt_iff]
  have behind {index : Nat} (outside : size ≤ index) (other : index ≠ size + step - 2) :
      loud rec size step index = 0 := by
    rw [loud, if_neg (by omega), if_neg other]
  have mark : loud rec size step (size + step - 2) = 1 := by
    rw [loud, if_neg (by omega), if_pos rfl]
  refine ⟨?_, behind (by omega) (by omega), Or.inl ?_⟩
  · rcases length with rfl | rfl
    · have place : 3 + (size - 4) = size - 1 := by omega
      rw [place, ← loud_same rec size 3 _ (by omega)]
      exact last rfl
    · exact behind (by omega) (by omega)
  · have place : step + (size - 4) + 2 = size + step - 2 := by omega
    rw [place]
    exact mark

/-- The bytes of a chunk decide the cut exactly when the search never needs another byte. -/
theorem cutSize_determined_iff (fp : FileStream UInt8) (rec : Memory UInt8) (size : Nat) :
    (∀ first second, SameChunk size rec first → SameChunk size rec second →
      cutSize first fp size = cutSize second fp size) ↔ SelfContained rec size := by
  constructor
  · intro determined
    by_contra unbounded
    obtain ⟨long, unbounded⟩ := not_or.mp unbounded
    obtain ⟨fronted, unbounded⟩ := not_or.mp unbounded
    obtain ⟨absent, ending⟩ := not_or.mp unbounded
    obtain ⟨step, front⟩ := Option.ne_none_iff_exists'.mp fronted
    have room : 4 ≤ size := by omega
    have same := determined _ _ (quiet_same rec size) (loud_same rec size step)
    have heard : (cutSize (loud rec size step) fp size).isSome = true := by
      rw [cutSize_isSome_iff fp
        ((frontLength_same (loud_same rec size step) room).symm.trans front)]
      refine ⟨size - 4, by omega, loud_stands room (frontLength_cases front) fun short => ?_⟩
      rw [short] at front
      by_contra nonzero
      exact ending ⟨front, nonzero⟩
    rw [← same,
      cutSize_isSome_iff fp
        ((frontLength_same (quiet_same rec size) room).symm.trans front)] at heard
    obtain ⟨index, _, stands⟩ := heard
    exact absent ⟨step, step + index, front, Nat.le_add_right _ _, quiet_within stands⟩
  · intro contained first second one two
    rw [cutSize_selfContained fp contained one, cutSize_selfContained fp contained two]

/-- A chunk of five bytes ends in a zero, and the bytes behind it complete a start code. -/
theorem cutSize_stale :
    ¬∀ (fp : FileStream UInt8) (size : Nat) (first second : Memory UInt8),
      SameChunk size first second → cutSize first fp size = cutSize second fp size := by
  intro determined
  let rec_ : Memory UInt8 := overlay (fun _ => 0xFF) 0 [0, 0, 1, 0x65, 0]
  have same := determined ⟨[], 0⟩ 5 (quiet rec_ 5) (loud rec_ 5 3) fun index inside =>
    (quiet_same rec_ 5 index inside).symm.trans (loud_same rec_ 5 3 index inside)
  exact absurd same (by decide)

end Determined

end FzServer.Streaming
