import FzServer.Foundation.Pipeline
import FzServer.Proof.Streaming.Turns

/-
This file splits each media thread into a reader of its file and a writer to its socket.
-/

namespace FzServer.Streaming

open Foundation Rtp H264 Aac Media

section Video

/-- The reader of the video file keeps its position and its buffer. -/
structure VideoReader where
  fp : FileStream UInt8
  buffer : Memory UInt8

/-- A cut is a start code with the unit behind it, both at the front of the buffer. -/
structure Cut where
  rec_ : Memory UInt8
  step : Nat
  found : Nat

namespace Cut

variable (cut : Cut)

/-- The packetiser gets this pointer and this size. -/
def unit : Memory UInt8 × Nat := (cut.rec_.advance cut.step, cut.found - cut.step)

def code : List UInt8 := window cut.rec_ 0 cut.step

def bytes : List UInt8 := window cut.unit.1 0 cut.unit.2

end Cut

/-- The reader ends with the value that the thread returns. -/
def readUnit (reader : VideoReader) : Int ⊕ Cut × VideoReader :=
  let chunk := reader.fp.fread H264_FILE_BUFFER
  let rec_ := overlay reader.buffer 0 chunk.1
  let size := chunk.1.length
  if size = 0 then .inl 0
  else
    match extract_content rec_ chunk.2 size with
    | none => .inl (-1)
    | some (found, moved) =>
        let step := if startCode4 rec_ then 4 else if startCode3 rec_ then 3 else 0
        .inr (⟨rec_, step, found⟩, ⟨moved, rec_⟩)

/-- The writer has a sender and a record of the units that it was given. -/
structure VideoWriter where
  sender : Sender
  calls : List (List UInt8)

/-- The writer refuses a unit when its packetiser returns -1. -/
def writeUnit (send : Sender → Memory UInt8 → Nat → Int × Sender) (writer : VideoWriter)
    (cut : Cut) : Bool × VideoWriter :=
  let result := send writer.sender cut.unit.1 cut.unit.2
  (result.1 ≠ -1, ⟨result.2, writer.calls ++ [cut.bytes]⟩)

section Writing

variable {send : Sender → Memory UInt8 → Nat → Int × Sender} {writer : VideoWriter} {cut : Cut}

theorem writeUnit_refused (failed : (send writer.sender cut.unit.1 cut.unit.2).1 = -1) :
    writeUnit send writer cut =
      (false, ⟨(send writer.sender cut.unit.1 cut.unit.2).2, writer.calls ++ [cut.bytes]⟩) := by
  simp [writeUnit, failed]

theorem writeUnit_taken (sent : (send writer.sender cut.unit.1 cut.unit.2).1 ≠ -1) :
    writeUnit send writer cut =
      (true, ⟨(send writer.sender cut.unit.1 cut.unit.2).2, writer.calls ++ [cut.bytes]⟩) := by
  simp [writeUnit, sent]

end Writing

/-- A refused unit and a malformed file both leave the file open. -/
def videoRun (ended : Option Int × VideoWriter) : VideoRun where
  ret := ended.1.getD (-1)
  calls := ended.2.calls
  leftOpen := if ended.1 = some 0 then 0 else 1
  sender := ended.2.sender

variable (send : Sender → Memory UInt8 → Nat → Int × Sender)

def videoState (state : VideoReader × VideoWriter) : VideoState :=
  ⟨state.1.fp, state.1.buffer, state.2.sender, state.2.calls⟩

/-- Each turn of the thread reads a unit and writes it. -/
theorem videoTurn_pipe (state : VideoReader × VideoWriter) :
    videoTurn send (videoState state) =
      (pipe readUnit (writeUnit send) state).map videoRun videoState := by
  obtain ⟨⟨fp, buffer⟩, ⟨sender, calls⟩⟩ := state
  change videoTurn send ⟨fp, buffer, sender, calls⟩ = _
  rw [videoTurn]
  dsimp only
  by_cases ended : (fp.fread H264_FILE_BUFFER).1.length = 0
  · have now : readUnit ⟨fp, buffer⟩ = .inl 0 := if_pos ended
    rw [if_pos ended, pipe_last now]
    rfl
  · rw [if_neg ended]
    cases cut : extract_content (overlay buffer 0 (fp.fread H264_FILE_BUFFER).1)
        (fp.fread H264_FILE_BUFFER).2 (fp.fread H264_FILE_BUFFER).1.length with
    | none =>
        have now : readUnit ⟨fp, buffer⟩ = .inl (-1) := by
          simp only [readUnit, if_neg ended, cut]
        rw [pipe_last now]
        rfl
    | some result =>
        obtain ⟨found, moved⟩ := result
        have now : readUnit ⟨fp, buffer⟩ = .inr (⟨overlay buffer 0 (fp.fread H264_FILE_BUFFER).1,
            if startCode4 (overlay buffer 0 (fp.fread H264_FILE_BUFFER).1) then 4
            else if startCode3 (overlay buffer 0 (fp.fread H264_FILE_BUFFER).1) then 3 else 0,
            found⟩, ⟨moved, overlay buffer 0 (fp.fread H264_FILE_BUFFER).1⟩) := by
          simp only [readUnit, if_neg ended, cut]
        rw [pipe_item now]
        dsimp only
        generalize (if startCode4 (overlay buffer 0 (fp.fread H264_FILE_BUFFER).1) then 4
          else if startCode3 (overlay buffer 0 (fp.fread H264_FILE_BUFFER).1) then 3
          else 0) = step
        by_cases failed : (send sender
            ((overlay buffer 0 (fp.fread H264_FILE_BUFFER).1).advance step) (found - step)).1 = -1
        · rw [if_pos failed, writeUnit_refused failed]
          rfl
        · rw [if_neg failed, writeUnit_taken failed]
          rfl

/-- A reader that gives a unit has cut it out of its chunk. -/
theorem readUnit_gives {reader next : VideoReader} {cut : Cut}
    (now : readUnit reader = .inr (cut, next)) :
    cut.rec_ = overlay reader.buffer 0 (reader.fp.fread H264_FILE_BUFFER).1 ∧
      next.buffer = cut.rec_ ∧
      cut.step = (if startCode4 cut.rec_ then 4 else if startCode3 cut.rec_ then 3 else 0) ∧
      extract_content cut.rec_ (reader.fp.fread H264_FILE_BUFFER).2
        (reader.fp.fread H264_FILE_BUFFER).1.length = some (cut.found, next.fp) := by
  rw [readUnit] at now
  dsimp only at now
  by_cases ended : (reader.fp.fread H264_FILE_BUFFER).1.length = 0
  · rw [if_pos ended] at now
    nomatch now
  · rw [if_neg ended] at now
    cases found : extract_content (overlay reader.buffer 0 (reader.fp.fread H264_FILE_BUFFER).1)
        (reader.fp.fread H264_FILE_BUFFER).2 (reader.fp.fread H264_FILE_BUFFER).1.length with
    | none =>
        rw [found] at now
        nomatch now
    | some result =>
        rw [found] at now
        obtain ⟨rfl, rfl⟩ := Prod.mk.inj (Sum.inr.inj now)
        exact ⟨rfl, rfl, rfl, found⟩

/-- A unit moves the file by itself and its start code. -/
theorem readUnit_moves {reader next : VideoReader} {cut : Cut}
    (now : readUnit reader = .inr (cut, next)) :
    3 ≤ cut.found ∧ cut.found ≤ (reader.fp.fread H264_FILE_BUFFER).1.length ∧
      next.fp = { reader.fp with position := reader.fp.position + cut.found } := by
  obtain ⟨_, _, _, found⟩ := readUnit_gives now
  obtain ⟨least, most, moved⟩ := extract_content_bounds found
  exact ⟨least, most, moved.trans (FileStream.fseek_fread _ _ _)⟩

theorem readUnit_spends {reader next : VideoReader} {cut : Cut}
    (now : readUnit reader = .inr (cut, next)) :
    next.fp.unread.length + 1 ≤ reader.fp.unread.length := by
  obtain ⟨least, most, moved⟩ := readUnit_moves now
  rw [FileStream.fread_cells, List.length_take, FileStream.unread, List.length_drop] at most
  rw [moved, FileStream.unread, FileStream.unread, List.length_drop, List.length_drop]
  dsimp only
  omega

/-- The units of a file and its end depend on nothing that the socket does. -/
theorem sendH264Over_reads (content : List UInt8) (heap : Memory UInt8) :
    ∃ cuts last, Reads readUnit ⟨⟨content, 0⟩, heap⟩ cuts last ∧
      ∀ send packetHeap socket, sendH264Over send (some content) heap packetHeap socket =
        some (videoRun (pipeEnd last (writeAll (writeUnit send)
          ⟨(videoStart content heap packetHeap socket).sender, []⟩ cuts))) := by
  obtain ⟨cuts, last, reads, few⟩ := Reads.of_stock (fun reader : VideoReader =>
    reader.fp.unread.length) (fun _ _ _ now => readUnit_spends now) ⟨⟨content, 0⟩, heap⟩
  refine ⟨cuts, last, reads, fun send packetHeap socket => ?_⟩
  have loops := loop_map videoState videoRun (videoTurn_pipe send) (content.length + 1)
    (⟨⟨content, 0⟩, heap⟩, ⟨(videoStart content heap packetHeap socket).sender, []⟩)
  rw [reads.loop_pipe (show cuts.length < content.length + 1 from Nat.lt_succ_of_le few),
    Option.map_some] at loops
  rw [sendH264Over_eq_loop]
  exact loops

end Video

section Audio

/-- The reader of the audio file also keeps the pointer that it never moves back. -/
structure AudioReader where
  fp : FileStream UInt8
  buffer : Memory UInt8
  frame : Nat

def AudioReader.state (reader : AudioReader) (sender : Sender) (calls : List (List UInt8)) :
    AudioState :=
  ⟨reader.fp, reader.buffer, reader.frame, sender, calls⟩

/-- The packetiser gets this pointer and this size. -/
abbrev Frame : Type := Memory UInt8 × UInt32

def frameBytes (frame : Frame) : List UInt8 := window frame.1 0 frame.2.toNat

/-- The reader ends with the pointer that the thread frees. -/
def readFrame (reader : AudioReader) : Nat ⊕ Frame × AudioReader :=
  let head := reader.fp.fread 7
  let headed := overlay reader.buffer reader.frame head.1
  if readSize head.1 ≤ 0 then .inl reader.frame
  else
    let parsed := parseAdtsHeader (headed.advance reader.frame)
    if parsed.1 = -1 then .inl reader.frame
    else
      let body := head.2.fread (parsed.2.aacFrameLength - 7).toNat
      let filled := overlay headed reader.frame body.1
      let rSize := readSize body.1
      if rSize ≤ 0 then .inl reader.frame
      else
        let skipped := if parsed.2.protectionAbsent = 0 then 2 else 0
        let moved := reader.frame + skipped
        .inr ((filled.advance moved, UInt32.ofInt (rSize - skipped)), ⟨body.2, filled, moved⟩)

/-- The writer has a sender and a record of the frames that it was given. -/
structure AudioWriter where
  sender : Sender
  calls : List (List UInt8)

/-- The writer refuses no frame. -/
def writeFrame (send : Sender → Memory UInt8 → UInt32 → Int × Sender) (writer : AudioWriter)
    (frame : Frame) : Bool × AudioWriter :=
  (true, ⟨(send writer.sender frame.1 frame.2).2, writer.calls ++ [frameBytes frame]⟩)

def audioRun (ended : Option Nat × AudioWriter) : AudioRun where
  ret := 0
  calls := ended.2.calls
  frame := ended.1.getD 0
  leftOpen := 0
  sender := ended.2.sender

variable (send : Sender → Memory UInt8 → UInt32 → Int × Sender)

def audioState (state : AudioReader × AudioWriter) : AudioState :=
  state.1.state state.2.sender state.2.calls

/-- The reader computes what the turn computes. -/
theorem readFrame_state (reader : AudioReader) (sender : Sender) (calls : List (List UInt8)) :
    let state := reader.state sender calls
    readFrame reader =
      if readSize state.head ≤ 0 then .inl reader.frame
      else if state.parsed.1 = -1 then .inl reader.frame
      else if readSize state.body ≤ 0 then .inl reader.frame
      else .inr ((state.raw, state.frameSize),
        ⟨((reader.fp.fread 7).2.fread state.count.toNat).2,
          overlay state.headed reader.frame state.body, reader.frame + state.skipped⟩) := rfl

/-- Each turn of the thread reads a frame and writes it. -/
theorem audioTurn_pipe (state : AudioReader × AudioWriter) :
    audioTurn send (audioState state) =
      (pipe readFrame (writeFrame send) state).map audioRun audioState := by
  obtain ⟨reader, writer⟩ := state
  have reads := readFrame_state reader writer.sender writer.calls
  change audioTurn send (reader.state writer.sender writer.calls) = _
  rw [audioTurn]
  by_cases ended : readSize (reader.state writer.sender writer.calls).head ≤ 0
  · have now := reads.trans (if_pos ended)
    rw [if_pos ended, pipe_last now]
    rfl
  by_cases refused : (reader.state writer.sender writer.calls).parsed.1 = -1
  · have now := reads.trans ((if_neg ended).trans (if_pos refused))
    rw [if_neg ended, if_pos refused, pipe_last now]
    rfl
  by_cases empty : readSize (reader.state writer.sender writer.calls).body ≤ 0
  · have now := reads.trans ((if_neg ended).trans ((if_neg refused).trans (if_pos empty)))
    rw [if_neg ended, if_neg refused, if_pos empty, pipe_last now]
    rfl
  · have now := reads.trans ((if_neg ended).trans ((if_neg refused).trans (if_neg empty)))
    rw [if_neg ended, if_neg refused, if_neg empty, pipe_item now]
    rfl

theorem readFrame_spends {reader next : AudioReader} {frame : Frame}
    (now : readFrame reader = .inr (frame, next)) :
    next.fp.unread.length + 1 ≤ reader.fp.unread.length := by
  rw [readFrame] at now
  dsimp only at now
  by_cases ended : readSize (reader.fp.fread 7).1 ≤ 0
  · rw [if_pos ended] at now
    nomatch now
  rw [if_neg ended] at now
  have headed : 0 < (reader.fp.fread 7).1.length := by
    rw [List.length_pos_iff]
    intro nothing
    rw [nothing] at ended
    exact ended (by decide)
  rw [FileStream.fread_cells, List.length_take] at headed
  split at now
  · nomatch now
  split at now
  · nomatch now
  obtain ⟨_, rfl⟩ := Prod.mk.inj (Sum.inr.inj now)
  rw [FileStream.fread_unread, FileStream.fread_unread, List.length_drop, List.length_drop]
  omega

/-- The frames of a file depend on nothing that the socket does. -/
theorem sendAacOver_reads (content : List UInt8) (heap : Memory UInt8) :
    ∃ frames last, Reads readFrame ⟨⟨content, 0⟩, heap, 0⟩ frames last ∧
      ∀ send packetHeap socket, sendAacOver send (some content) heap packetHeap socket =
        some (audioRun (pipeEnd last (writeAll (writeFrame send)
          ⟨(audioStart content heap packetHeap socket).sender, []⟩ frames))) := by
  obtain ⟨frames, last, reads, few⟩ := Reads.of_stock (fun reader : AudioReader =>
    reader.fp.unread.length) (fun _ _ _ now => readFrame_spends now) ⟨⟨content, 0⟩, heap, 0⟩
  refine ⟨frames, last, reads, fun send packetHeap socket => ?_⟩
  have loops := loop_map audioState audioRun (audioTurn_pipe send) (content.length + 1)
    (⟨⟨content, 0⟩, heap, 0⟩, ⟨(audioStart content heap packetHeap socket).sender, []⟩)
  rw [reads.loop_pipe (show frames.length < content.length + 1 from Nat.lt_succ_of_le few),
    Option.map_some] at loops
  rw [sendAacOver_eq_loop]
  exact loops

end Audio

end FzServer.Streaming
