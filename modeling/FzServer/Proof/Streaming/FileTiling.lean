import FzServer.Proof.Streaming.Readers
import FzServer.Proof.Streaming.UnitBoundaries

/-
This file shows that the units of any video file and their start codes lie side by side in it.
-/

namespace FzServer.Streaming

open Foundation Rtp H264 Media

/-- A piece of the file is a start code with the unit behind it, and no other code begins inside. -/
structure Piece where
  code : List UInt8
  bytes : List UInt8
  isCode : code = [0, 0, 1] ∨ code = [0, 0, 0, 1]
  noStartCode : ¬[0, 0, 1] <:+: bytes

def Piece.encode (piece : Piece) : List UInt8 := piece.code ++ piece.bytes

/-- A cut ends at the first start code behind the one at the front. -/
theorem extract_content_some {rec : Memory UInt8} {fp moved : FileStream UInt8} {size found : Nat}
    (cut : extract_content rec fp size = some (found, moved)) :
    ∃ step, frontLength rec = some step ∧ step ≤ found ∧ codeAt rec found = true ∧
      ∀ index < found - step, codeAt rec (step + index) = false := by
  have parts := cut
  rw [extract_content_eq] at parts
  obtain ⟨step, front, _⟩ := Option.bind_eq_some_iff.mp parts
  by_cases visited : ∃ place, place < size - 3 ∧ codeAt rec (step + place) = true
  · obtain ⟨place, ⟨inside, stands⟩, least⟩ := exists_least visited
    have before : ∀ index < place, codeAt rec (step + index) = false := by
      intro index smaller
      rw [Bool.eq_false_iff]
      exact fun also => absurd (least ⟨smaller.trans inside, also⟩) (Nat.not_le.mpr smaller)
    rw [extract_content_first fp size front inside stands before] at cut
    obtain ⟨rfl, _⟩ := Prod.mk.inj (Option.some.inj cut)
    refine ⟨step, front, Nat.le_add_right _ _, stands, ?_⟩
    rw [Nat.add_sub_cancel_left]
    exact before
  · have nothing := extract_content_none fp size front fun index inside => by
      rw [Bool.eq_false_iff]
      exact fun stands => visited ⟨index, inside, stands⟩
    rw [nothing] at cut
    nomatch cut

/-- The step of the loop is the length of the start code at the front. -/
theorem frontCode {rec : Memory UInt8} {step : Nat} (front : frontLength rec = some step) :
    (if startCode4 rec then 4 else if startCode3 rec then 3 else 0) = step ∧
      (window rec 0 step = [0, 0, 1] ∨ window rec 0 step = [0, 0, 0, 1]) := by
  rw [frontLength] at front
  by_cases short : startCode3 rec = true
  · rw [if_pos short] at front
    obtain rfl := Option.some.inj front
    have cells := short
    rw [startCode3, decide_eq_true_iff] at cells
    obtain ⟨zero, one, two⟩ := cells
    have long : ¬startCode4 rec = true := by simp [startCode4, two]
    rw [if_neg long, if_pos short]
    exact ⟨rfl, Or.inl (by simp [window, List.range_succ, zero, one, two])⟩
  · rw [if_neg short] at front
    split_ifs at front with long
    obtain rfl := Option.some.inj front
    rw [if_pos long]
    rw [startCode4, decide_eq_true_iff] at long
    obtain ⟨zero, one, two, three⟩ := long
    exact ⟨rfl, Or.inr (by simp [window, List.range_succ, zero, one, two, three])⟩

section Cuts

variable {reader next : VideoReader} {cut : Cut}

/-- The unit starts behind a start code and ends at the next one. -/
theorem readUnit_code (now : readUnit reader = .inr (cut, next)) :
    cut.step ≤ cut.found ∧ (cut.code = [0, 0, 1] ∨ cut.code = [0, 0, 0, 1]) ∧
      codeAt cut.rec_ cut.found = true ∧
      ∀ index < cut.found - cut.step, codeAt cut.rec_ (cut.step + index) = false := by
  obtain ⟨_, _, stepEq, found⟩ := readUnit_gives now
  obtain ⟨step, front, before, follows, absent⟩ := extract_content_some found
  obtain ⟨same, code⟩ := frontCode front
  rw [same] at stepEq
  rw [Cut.code, stepEq]
  exact ⟨before, code, follows, absent⟩

/-- No start code begins inside a unit. -/
theorem readUnit_noStartCode (now : readUnit reader = .inr (cut, next)) :
    ¬[0, 0, 1] <:+: cut.bytes := by
  obtain ⟨_, _, _, absent⟩ := readUnit_code now
  rintro ⟨front, back, whole⟩
  have size := congrArg List.length whole
  rw [List.length_append, List.length_append, Cut.bytes, window_length] at size
  change front.length + 3 + back.length = cut.found - cut.step at size
  have cell (offset : Nat) (inside : offset < 3) :
      [0, 0, 1][offset]? = some (cut.rec_ (cut.step + front.length + offset)) := by
    have read := congrArg (fun bytes => bytes[front.length + offset]?) whole
    rw [List.append_assoc, List.getElem?_append_right (Nat.le_add_right _ _),
      Nat.add_sub_cancel_left, List.getElem?_append_left (by exact inside), Cut.bytes,
      window_getElem?, if_pos (by change _ < cut.found - cut.step; omega)] at read
    rw [read]
    change some (cut.rec_.advance cut.step (0 + (front.length + offset))) = _
    rw [advance_apply, Nat.zero_add, Nat.add_assoc]
  have stands : codeAt cut.rec_ (cut.step + front.length) = true := by
    rw [codeAt_iff]
    exact ⟨(Option.some.inj (cell 0 (by decide))).symm, (Option.some.inj (cell 1 (by decide))).symm,
      Or.inl (Option.some.inj (cell 2 (by decide))).symm⟩
  rw [absent front.length (by omega)] at stands
  exact absurd stands (by decide)

/-- The reader moves over exactly the start code and the unit. -/
theorem readUnit_takes (now : readUnit reader = .inr (cut, next)) :
    reader.fp.unread = (cut.code ++ cut.bytes) ++ next.fp.unread := by
  obtain ⟨_, most, moved⟩ := readUnit_moves now
  obtain ⟨before, _, _, _⟩ := readUnit_code now
  obtain ⟨buffer, _, _, _⟩ := readUnit_gives now
  have whole : cut.code ++ cut.bytes = window cut.rec_ 0 cut.found := by
    have length : cut.step + (cut.found - cut.step) = cut.found := by omega
    conv_rhs => rw [← length, window_append, Nat.zero_add]
    rw [Cut.code, Cut.bytes, Cut.unit, window_advance, Nat.add_zero]
  have front : window cut.rec_ 0 cut.found = reader.fp.unread.take cut.found := by
    have held := window_overlay reader.buffer 0 (reader.fp.fread H264_FILE_BUFFER).1
    rw [← buffer] at held
    have part := window_take cut.rec_ 0 most
    rw [held, FileStream.fread_cells, List.take_take] at part
    rw [FileStream.fread_cells, List.length_take] at most
    rw [part, Nat.min_eq_left (most.trans (Nat.min_le_left _ _))]
  rw [whole, front, moved]
  change _ = reader.fp.unread.take cut.found ++ reader.fp.content.drop (reader.fp.position + _)
  rw [← List.drop_drop]
  exact (List.take_append_drop cut.found reader.fp.unread).symm

/-- A reader that ends with 0 has read the whole file, and one that ends with -1 has not. -/
theorem readUnit_leaves {last : Int} (now : readUnit reader = .inl last) :
    last = 0 ∧ reader.fp.unread = [] ∨ last = -1 ∧ reader.fp.unread ≠ [] := by
  have positive : H264_FILE_BUFFER ≠ 0 := by decide
  rw [readUnit] at now
  dsimp only at now
  by_cases ended : (reader.fp.fread H264_FILE_BUFFER).1.length = 0
  · rw [if_pos ended] at now
    rw [FileStream.fread_cells, List.length_eq_zero_iff, List.take_eq_nil_iff] at ended
    exact Or.inl ⟨(Sum.inl.inj now).symm, ended.resolve_left positive⟩
  · rw [if_neg ended] at now
    have unread : reader.fp.unread ≠ [] := by
      intro empty
      rw [FileStream.fread_cells, empty, List.take_nil] at ended
      exact ended rfl
    cases cut : extract_content (overlay reader.buffer 0 (reader.fp.fread H264_FILE_BUFFER).1)
        (reader.fp.fread H264_FILE_BUFFER).2 (reader.fp.fread H264_FILE_BUFFER).1.length with
    | none =>
        rw [cut] at now
        exact Or.inr ⟨(Sum.inl.inj now).symm, unread⟩
    | some result =>
        rw [cut] at now
        cases now

end Cuts

/-- The cut gives a piece when the reader gave it. -/
def GivesPiece (cut : Cut) : Prop :=
  (cut.code = [0, 0, 1] ∨ cut.code = [0, 0, 0, 1]) ∧ ¬[0, 0, 1] <:+: cut.bytes

/-- Pieces with these units stand for the cuts. -/
theorem exists_pieces (cuts : List Cut) (good : ∀ cut ∈ cuts, GivesPiece cut) :
    ∃ pieces : List Piece, pieces.map Piece.bytes = cuts.map Cut.bytes ∧
      pieces.flatMap Piece.encode = cuts.flatMap fun cut => cut.code ++ cut.bytes := by
  induction cuts with
  | nil => exact ⟨[], rfl, rfl⟩
  | cons cut cuts ih =>
      obtain ⟨first, others⟩ := List.forall_mem_cons.mp good
      obtain ⟨pieces, bytes, whole⟩ := ih others
      refine ⟨⟨cut.code, cut.bytes, first.1, first.2⟩ :: pieces, ?_, ?_⟩
      · rw [List.map_cons, bytes, List.map_cons]
      · rw [List.flatMap_cons, whole, List.flatMap_cons]
        rfl

/-- The writer was given the front of the cuts, and all of them unless it refused one. -/
theorem writeUnits_calls (send : Sender → Memory UInt8 → Nat → Int × Sender) (writer : VideoWriter)
    (cuts : List Cut) :
    ∃ given left, cuts = given ++ left ∧
      (writeAll (writeUnit send) writer cuts).2.calls = writer.calls ++ given.map Cut.bytes ∧
      ((writeAll (writeUnit send) writer cuts).1 = true → left = []) := by
  induction cuts generalizing writer with
  | nil => exact ⟨[], [], rfl, (List.append_nil _).symm, fun _ => rfl⟩
  | cons cut cuts ih =>
      by_cases failed : (send writer.sender cut.unit.1 cut.unit.2).1 = -1
      · have now := @writeUnit_refused send writer cut failed
        refine ⟨[cut], cuts, rfl, ?_, ?_⟩
        · rw [writeAll_refused (congrArg Prod.fst now), now]
          rfl
        · rw [writeAll_refused (congrArg Prod.fst now)]
          exact fun taken => nomatch taken
      · have now := @writeUnit_taken send writer cut failed
        obtain ⟨given, left, split, calls, all⟩ := ih (writeUnit send writer cut).2
        rw [writeAll_taken (congrArg Prod.fst now)]
        refine ⟨cut :: given, left, by rw [split, List.cons_append], ?_, all⟩
        rw [calls, now, List.map_cons, List.append_assoc, List.singleton_append]

theorem writeUnits_all {send : Sender → Memory UInt8 → Nat → Int × Sender}
    (never : ∀ sender unit size, (send sender unit size).1 ≠ -1) (writer : VideoWriter)
    (cuts : List Cut) : (writeAll (writeUnit send) writer cuts).1 = true := by
  induction cuts generalizing writer with
  | nil => rfl
  | cons cut cuts ih =>
      rw [writeAll_taken (congrArg Prod.fst (writeUnit_taken (never _ _ _)))]
      exact ih _

/-- The units of any file stand in it in their order, each behind its start code and without gaps.
What the thread did not hand over stands behind them. -/
theorem sendH264Over_tiles (send : Sender → Memory UInt8 → Nat → Int × Sender)
    (content : List UInt8) (heap : Memory UInt8) (packetHeap : RtpPacket) (socket : Socket) :
    ∃ run, ∃ pieces : List Piece, ∃ rest,
      sendH264Over send (some content) heap packetHeap socket = some run ∧
        run.calls = pieces.map Piece.bytes ∧ content = pieces.flatMap Piece.encode ++ rest ∧
        (run.ret = 0 → rest = []) ∧
        ((∀ sender unit size, (send sender unit size).1 ≠ -1) → rest = [] → run.ret = 0) := by
  obtain ⟨cuts, last, reads, runs⟩ := sendH264Over_reads content heap
  let start := (videoStart content heap packetHeap socket).sender
  obtain ⟨given, left, split, calls, all⟩ := writeUnits_calls send ⟨start, []⟩ cuts
  obtain ⟨remains, whole, ended⟩ := reads.tiles (fun cut => cut.code ++ cut.bytes)
    (fun reader => reader.fp.unread) (fun _ _ _ now => readUnit_takes now)
    (fun last left => last = 0 ∧ left = [] ∨ last = -1 ∧ left ≠ [])
    fun _ _ now => readUnit_leaves now
  have good := reads.forall GivesPiece fun _ _ _ now =>
    ⟨(readUnit_code now).2.1, readUnit_noStartCode now⟩
  rw [split] at good
  obtain ⟨pieces, bytes, encoded⟩ :=
    exists_pieces given fun cut member => good cut (List.mem_append_left _ member)
  refine ⟨_, pieces, left.flatMap (fun cut => cut.code ++ cut.bytes) ++ remains,
    runs send packetHeap socket, ?_, ?_, ?_, ?_⟩
  · rw [bytes]
    exact calls
  · rw [encoded, ← List.append_assoc, ← List.flatMap_append, ← split]
    exact whole
  · intro returned
    by_cases taken : (writeAll (writeUnit send) ⟨start, []⟩ cuts).1 = true
    · -- The thread returns what the reader ended with.
      have zero : last = 0 := by
        rw [← returned]
        change last = ((if (writeAll (writeUnit send) ⟨start, []⟩ cuts).1 then some last
          else none).getD (-1))
        rw [if_pos taken]
        rfl
      obtain ⟨_, empty⟩ | ⟨failed, _⟩ := ended
      · rw [all taken, empty]
        rfl
      · exact absurd (zero.symm.trans failed) (by decide)
    · change (if (writeAll (writeUnit send) ⟨start, []⟩ cuts).1 then some last
        else none).getD (-1) = 0 at returned
      rw [if_neg taken] at returned
      exact absurd returned (by decide)
  · intro never nothing
    change (if (writeAll (writeUnit send) ⟨start, []⟩ cuts).1 then some last
      else none).getD (-1) = 0
    rw [if_pos (writeUnits_all never _ cuts)]
    obtain ⟨zero, _⟩ | ⟨_, remained⟩ := ended
    · exact zero
    · exact absurd (List.append_eq_nil_iff.mp nothing).2 remained

end FzServer.Streaming
