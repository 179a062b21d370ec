import FzServer.Construction.Media.SendH264
import FzServer.Proof.Packetisation.SendTrace

/-
This file follows the video loop through a file of well-formed NAL units.
-/

namespace FzServer.Streaming

open Foundation Rtp H264 Media Packetisation

/-- A unit has no start code inside and does not end with a zero byte. -/
structure NalUnit where
  longCode : Bool
  bytes : List UInt8
  noStartCode : ¬[0, 0, 1] <:+: bytes
  lastNonzero : ∃ body last, bytes = body ++ [last] ∧ last ≠ 0

def NalUnit.code (unit : NalUnit) : List UInt8 :=
  if unit.longCode then [0, 0, 0, 1] else [0, 0, 1]

/-- The file holds the start code and then the unit. -/
def NalUnit.encode (unit : NalUnit) : List UInt8 := unit.code ++ unit.bytes

def encodeFile (units : List NalUnit) : List UInt8 := units.flatMap NalUnit.encode

/-- Each unit fits in the read buffer with its own and the following start code. -/
def FitsBuffer : List NalUnit → Prop
  | [] => True
  | [last] => last.encode.length ≤ H264_FILE_BUFFER
  | unit :: next :: units =>
      unit.encode.length + next.code.length ≤ H264_FILE_BUFFER ∧ FitsBuffer (next :: units)

/-- The last unit has a four-byte start code, and the bytes that earlier reads left behind it
in the buffer look like one more start code. -/
def StaleCodeBehindLast : Memory UInt8 → List NalUnit → Prop
  | _, [] => False
  | buffer, [last] => last.longCode = true ∧ codeAt buffer last.encode.length = true
  | buffer, unit :: next :: units =>
      StaleCodeBehindLast
        (overlay buffer 0 ((encodeFile (unit :: next :: units)).take H264_FILE_BUFFER))
        (next :: units)

theorem code_length (unit : NalUnit) : unit.code.length = if unit.longCode then 4 else 3 := by
  rw [NalUnit.code]
  split <;> rfl

theorem bytes_nonempty (unit : NalUnit) : 0 < unit.bytes.length := by
  obtain ⟨body, last, shape, _⟩ := unit.lastNonzero
  rw [shape, List.length_append, List.length_singleton]
  omega

/-- Three consecutive cells of a list are an infix of it. -/
theorem infix_of_getElem? {values : List UInt8} {index : Nat} {first second third : UInt8}
    (one : values[index]? = some first) (two : values[index + 1]? = some second)
    (three : values[index + 2]? = some third) : [first, second, third] <:+: values := by
  obtain ⟨_, rfl⟩ := List.getElem?_eq_some_iff.mp one
  obtain ⟨_, rfl⟩ := List.getElem?_eq_some_iff.mp two
  obtain ⟨inside, rfl⟩ := List.getElem?_eq_some_iff.mp three
  refine ⟨values.take index, values.drop (index + 3), ?_⟩
  rw [List.append_assoc]
  conv_rhs => rw [← List.take_append_drop index values]
  congr 1
  rw [List.drop_eq_getElem_cons (show index < values.length by omega),
    List.drop_eq_getElem_cons (show index + 1 < values.length by omega),
    List.drop_eq_getElem_cons inside]
  rfl

/-- The memory starts with these cells. -/
def StartsWith (memory : Memory UInt8) (values : List UInt8) : Prop :=
  ∀ index (inside : index < values.length), memory index = values[index]

theorem StartsWith.of_overlay (memory : Memory UInt8) (values : List UInt8) :
    StartsWith (overlay memory 0 values) values := by
  intro index inside
  have same := overlay_inside memory 0 values index inside
  rwa [Nat.zero_add] at same

theorem StartsWith.front {memory : Memory UInt8} {front values : List UInt8}
    (starts : StartsWith memory values) (front_values : front <+: values) :
    StartsWith memory front := by
  obtain ⟨rest, rfl⟩ := front_values
  intro index inside
  rw [starts index (by rw [List.length_append]; omega), List.getElem_append_left inside]

/-- The unit bytes stand behind the start code in memory. -/
theorem StartsWith.body {memory : Memory UInt8} {unit : NalUnit}
    (starts : StartsWith memory unit.encode) (index : Nat) (inside : index < unit.bytes.length) :
    unit.bytes[index]? = some (memory (unit.code.length + index)) := by
  rw [starts (unit.code.length + index) (by rw [NalUnit.encode, List.length_append]; omega)]
  simp [NalUnit.encode, List.getElem?_eq_getElem inside]

/-- No start code begins inside a unit, whatever follows the unit. -/
theorem codeAt_inside {memory : Memory UInt8} {unit : NalUnit}
    (starts : StartsWith memory unit.encode) (index : Nat) (inside : index < unit.bytes.length) :
    codeAt memory (unit.code.length + index) = false := by
  rw [Bool.eq_false_iff]
  intro stands
  obtain ⟨first, second, third⟩ := (codeAt_iff _ _).mp stands
  obtain ⟨body, last, shape, nonzero⟩ := unit.lastNonzero
  have length : unit.bytes.length = body.length + 1 := by rw [shape]; simp
  have final : unit.bytes[body.length]? = some last := by rw [shape]; simp
  have lastCell (offset : Nat) (there : index + offset = body.length) :
      memory (unit.code.length + index + offset) = last := by
    have cell := starts.body (index + offset) (by omega)
    rw [there, final] at cell
    rw [Nat.add_assoc, there]
    exact (Option.some.inj cell).symm
  have firstIn := starts.body index inside
  rw [first] at firstIn
  -- A zero in the last place would contradict the end of the unit.
  have second_inside : index + 1 < unit.bytes.length := by
    by_contra outside
    have ended := lastCell 0 (by omega)
    rw [Nat.add_zero, first] at ended
    exact nonzero ended.symm
  have secondIn := starts.body (index + 1) second_inside
  rw [← Nat.add_assoc, second] at secondIn
  have third_inside : index + 2 < unit.bytes.length := by
    by_contra outside
    have ended := lastCell 1 (by omega)
    rw [second] at ended
    exact nonzero ended.symm
  have thirdIn := starts.body (index + 2) third_inside
  rw [← Nat.add_assoc] at thirdIn
  rcases third with one | ⟨zero, one⟩
  · rw [one] at thirdIn
    exact unit.noStartCode (infix_of_getElem? firstIn secondIn thirdIn)
  · have fourth_inside : index + 3 < unit.bytes.length := by
      by_contra outside
      have ended := lastCell 2 (by omega)
      rw [zero] at ended
      exact nonzero ended.symm
    have fourthIn := starts.body (index + 3) fourth_inside
    rw [← Nat.add_assoc, one] at fourthIn
    rw [zero] at thirdIn
    exact unit.noStartCode (infix_of_getElem? secondIn thirdIn fourthIn)

/-- The code at the front decides the step of the loop. -/
theorem startCodes_front {memory : Memory UInt8} {unit : NalUnit}
    (starts : StartsWith memory unit.encode) :
    startCode3 memory = !unit.longCode ∧ startCode4 memory = unit.longCode := by
  have front := starts.front (List.prefix_append unit.code unit.bytes)
  cases long : unit.longCode with
  | true =>
      rw [NalUnit.code, if_pos long] at front
      simp [startCode3, startCode4, front 0 (by decide), front 1 (by decide), front 2 (by decide),
        front 3 (by decide)]
  | false =>
      rw [NalUnit.code, if_neg (by simp [long])] at front
      simp [startCode3, startCode4, front 0 (by decide), front 1 (by decide), front 2 (by decide)]

theorem frontLength_unit {memory : Memory UInt8} {unit : NalUnit}
    (starts : StartsWith memory unit.encode) : frontLength memory = some unit.code.length := by
  obtain ⟨three, four⟩ := startCodes_front starts
  rw [frontLength, three, four, code_length]
  cases unit.longCode <;> rfl

/-- A unit that another unit follows is cut exactly. -/
theorem extract_content_followed {memory : Memory UInt8} {unit next : NalUnit}
    (starts : StartsWith memory (unit.encode ++ next.code)) (fp : FileStream UInt8) (size : Nat)
    (room : unit.encode.length + next.code.length ≤ size) :
    extract_content memory fp size =
      some (unit.encode.length, fp.fseek ((unit.encode.length : Int) - (size : Int))) := by
  have length : unit.encode.length = unit.code.length + unit.bytes.length := by
    rw [NalUnit.encode, List.length_append]
  have own := starts.front (List.prefix_append unit.encode next.code)
  have follows : codeAt memory (unit.code.length + unit.bytes.length) = true := by
    rw [← length, codeAt]
    have cell (index : Nat) (inside : index < next.code.length) :
        memory (unit.encode.length + index) = next.code[index] := by
      rw [starts (unit.encode.length + index) (by rw [List.length_append]; omega)]
      simp
    have front (inside : 0 < next.code.length) : memory unit.encode.length = next.code[0] :=
      cell 0 inside
    cases long : next.longCode with
    | true =>
        have code : next.code = [0, 0, 0, 1] := by rw [NalUnit.code, if_pos long]
        simp [startCode3, startCode4, code, front (by simp [code]), cell 1 (by simp [code]),
          cell 2 (by simp [code]), cell 3 (by simp [code])]
    | false =>
        have code : next.code = [0, 0, 1] := by rw [NalUnit.code, if_neg (by simp [long])]
        simp [startCode3, startCode4, code, front (by simp [code]), cell 1 (by simp [code]),
          cell 2 (by simp [code])]
  have three : 3 ≤ unit.code.length ∧ 3 ≤ next.code.length := by
    rw [code_length, code_length]
    constructor <;> split <;> decide
  rw [length]
  exact extract_content_first fp size (frontLength_unit own) (by omega) follows
    fun index inside => codeAt_inside own index inside

/-- The last unit is cut exactly when a stale start code stands behind a four-byte code. -/
theorem extract_content_last {memory : Memory UInt8} {unit : NalUnit}
    (starts : StartsWith memory unit.encode) (fp : FileStream UInt8) :
    extract_content memory fp unit.encode.length =
      if unit.longCode = true ∧ codeAt memory unit.encode.length = true then
        some (unit.encode.length, fp.fseek 0)
      else none := by
  have length : unit.encode.length = unit.code.length + unit.bytes.length := by
    rw [NalUnit.encode, List.length_append]
  have positive := bytes_nonempty unit
  split_ifs with stale
  · have four : unit.code.length = 4 := by rw [code_length, if_pos stale.1]
    have stands := stale.2
    rw [length] at stands
    rw [extract_content_first fp _ (frontLength_unit starts) (by omega) stands
      (fun index inside => codeAt_inside starts index inside), ← length, Int.sub_self]
  · have absent : ∀ index < unit.encode.length - 3,
        codeAt memory (unit.code.length + index) = false := by
      intro index visited
      rcases Nat.lt_or_ge index unit.bytes.length with inside | outside
      · exact codeAt_inside starts index inside
      · -- Only a four-byte code lets the search look behind the unit.
        have long : unit.longCode = true := by
          by_contra short
          have three : unit.code.length = 3 := by rw [code_length, if_neg short]
          omega
        have four : unit.code.length = 4 := by rw [code_length, if_pos long]
        rw [show unit.code.length + index = unit.encode.length by omega, Bool.eq_false_iff]
        exact fun stands => stale ⟨long, stands⟩
    exact extract_content_none fp _ (frontLength_unit starts) absent

theorem encodeFile_cons (unit : NalUnit) (units : List NalUnit) :
    encodeFile (unit :: units) = unit.encode ++ encodeFile units := rfl

theorem units_length (units : List NalUnit) : units.length ≤ (encodeFile units).length := by
  induction units with
  | nil => simp
  | cons unit units ih =>
      have positive := bytes_nonempty unit
      simp only [encodeFile_cons, NalUnit.encode, List.length_append, List.length_cons]
      omega

/-- The unit behind the front code is exactly the window that the loop sends. -/
theorem window_body {memory : Memory UInt8} {unit : NalUnit}
    (starts : StartsWith memory unit.encode) :
    window (memory.advance unit.code.length) 0 (unit.encode.length - unit.code.length) =
      unit.bytes := by
  have length : unit.encode.length - unit.code.length = unit.bytes.length := by
    rw [NalUnit.encode, List.length_append, Nat.add_sub_cancel_left]
  rw [length]
  apply List.ext_getElem?
  intro index
  rw [window_getElem?]
  split_ifs with inside
  · rw [starts.body index inside, advance_apply, Nat.zero_add]
  · rw [List.getElem?_eq_none (Nat.le_of_not_gt inside)]

theorem step_front {memory : Memory UInt8} {unit : NalUnit}
    (starts : StartsWith memory unit.encode) :
    (if startCode4 memory then 4 else if startCode3 memory then 3 else 0) = unit.code.length := by
  obtain ⟨three, four⟩ := startCodes_front starts
  rw [three, four, code_length]
  cases unit.longCode <;> rfl

section Loop

variable (frame : List UInt8 → List UInt8)

/-- One turn that cuts a unit at the front sends it and goes on behind it. -/
theorem videoLoop_cut (fuel : Nat) (file : FileStream UInt8) (buffer : Memory UInt8)
    (sender : Sender) (calls : List (List UInt8)) (reliable : sender.socket.Reliable)
    (unit : NalUnit) (chunk : List UInt8) (read : (file.fread H264_FILE_BUFFER).1 = chunk)
    (front : unit.encode <+: chunk) (moved : FileStream UInt8)
    (cut : extract_content (overlay buffer 0 chunk) (file.fread H264_FILE_BUFFER).2 chunk.length =
      some (unit.encode.length, moved)) :
    ∃ after : Sender, after.socket.Reliable ∧
      videoLoop (sendManagerWith (transmit frame)) (fuel + 1) file buffer sender calls =
        videoLoop (sendManagerWith (transmit frame)) fuel moved (overlay buffer 0 chunk) after
          (calls ++ [unit.bytes]) := by
  have starts : StartsWith (overlay buffer 0 chunk) unit.encode :=
    (StartsWith.of_overlay buffer chunk).front front
  obtain ⟨positive, middle, sends, result⟩ := sendManagerWith_sends frame reliable
    ((overlay buffer 0 chunk).advance unit.code.length)
    (unit.encode.length - unit.code.length)
  have nonempty : chunk.length ≠ 0 := by
    have bound := front.length_le
    have filled := bytes_nonempty unit
    rw [NalUnit.encode, List.length_append] at bound
    omega
  refine ⟨(sendManagerWith (transmit frame) sender
    ((overlay buffer 0 chunk).advance unit.code.length)
    (unit.encode.length - unit.code.length)).2, ?_, ?_⟩
  · rw [result]
    exact sends.reliable reliable
  · simp only [videoLoop, read, if_neg nonempty, cut, step_front starts, window_body starts]
    rw [if_neg (by omega)]

/-- A unit with a next one behind it is sent, and the next turn starts right behind it. -/
theorem videoLoop_next (fuel : Nat) (unit next : NalUnit) (units : List NalUnit)
    (room : unit.encode.length + next.code.length ≤ H264_FILE_BUFFER) (content : List UInt8)
    (position : Nat) (rest : content.drop position = encodeFile (unit :: next :: units))
    (buffer : Memory UInt8) (sender : Sender) (reliable : sender.socket.Reliable)
    (calls : List (List UInt8)) :
    ∃ after : Sender, after.socket.Reliable ∧
      videoLoop (sendManagerWith (transmit frame)) (fuel + 1) ⟨content, position⟩ buffer sender
          calls =
        videoLoop (sendManagerWith (transmit frame)) fuel
          ⟨content, position + unit.encode.length⟩
          (overlay buffer 0 ((encodeFile (unit :: next :: units)).take H264_FILE_BUFFER)) after
          (calls ++ [unit.bytes]) := by
  have read : ((FileStream.mk content position).fread H264_FILE_BUFFER).1 =
      (encodeFile (unit :: next :: units)).take H264_FILE_BUFFER := by
    rw [← rest]
    rfl
  have seek := FileStream.fseek_fread (FileStream.mk content position) H264_FILE_BUFFER
    unit.encode.length
  rw [read] at seek
  -- The following start code lies in the same chunk, so the unit is cut exactly.
  have inChunk : unit.encode ++ next.code <+:
      (encodeFile (unit :: next :: units)).take H264_FILE_BUFFER := by
    rw [List.prefix_take_iff]
    constructor
    · rw [encodeFile_cons, encodeFile_cons, List.prefix_append_right_inj]
      exact (List.prefix_append next.code next.bytes).trans (List.prefix_append _ _)
    · rw [List.length_append]
      exact room
  have cut := extract_content_followed ((StartsWith.of_overlay buffer _).front inChunk)
    ((FileStream.mk content position).fread H264_FILE_BUFFER).2
    ((encodeFile (unit :: next :: units)).take H264_FILE_BUFFER).length
    (by simpa only [List.length_append] using inChunk.length_le)
  rw [seek] at cut
  exact videoLoop_cut frame fuel _ buffer sender calls reliable unit _ read
    ((List.prefix_append _ _).trans inChunk) _ cut

/-- Nothing follows the last unit in the file, so only old bytes can end it. -/
theorem videoLoop_last (fuel : Nat) (unit : NalUnit)
    (fits : unit.encode.length ≤ H264_FILE_BUFFER) (content : List UInt8) (position : Nat)
    (rest : content.drop position = unit.encode) (buffer : Memory UInt8) (sender : Sender)
    (reliable : sender.socket.Reliable) (calls : List (List UInt8)) :
    ∃ run, videoLoop (sendManagerWith (transmit frame)) (fuel + 2) ⟨content, position⟩ buffer
        sender calls = some run ∧
      (StaleCodeBehindLast buffer [unit] → run.ret = 0 ∧ run.calls = calls ++ [unit.bytes]) ∧
      (¬StaleCodeBehindLast buffer [unit] → run.ret = -1 ∧ run.calls = calls) := by
  have read : ((FileStream.mk content position).fread H264_FILE_BUFFER).1 = unit.encode := by
    rw [← List.take_of_length_le fits, ← rest]
    rfl
  have seek := FileStream.fseek_fread (FileStream.mk content position) H264_FILE_BUFFER
    unit.encode.length
  rw [read, Int.sub_self] at seek
  have untouched : codeAt (overlay buffer 0 unit.encode) unit.encode.length =
      codeAt buffer unit.encode.length := by
    have same (offset : Nat) : overlay buffer 0 unit.encode (unit.encode.length + offset) =
        buffer (unit.encode.length + offset) :=
      overlay_after _ _ _ _ (by omega)
    rw [Bool.eq_iff_iff, codeAt_iff, codeAt_iff, same 1, same 2, same 3,
      show overlay buffer 0 unit.encode unit.encode.length = _ from same 0, Nat.add_zero]
  have cut := extract_content_last (StartsWith.of_overlay buffer unit.encode)
    ((FileStream.mk content position).fread H264_FILE_BUFFER).2
  rw [untouched] at cut
  by_cases stale : StaleCodeBehindLast buffer [unit]
  · have both : unit.longCode = true ∧ codeAt buffer unit.encode.length = true := stale
    rw [if_pos both, seek] at cut
    obtain ⟨after, _, turn⟩ := videoLoop_cut frame (fuel + 1) _ buffer sender calls reliable unit _
      read (List.prefix_refl _) _ cut
    have ended : (FileStream.mk content (position + unit.encode.length)).fread
        H264_FILE_BUFFER = ([], ⟨content, position + unit.encode.length⟩) := by
      have behind : content.drop (position + unit.encode.length) = [] := by
        rw [← List.drop_drop, rest, List.drop_length]
      simp only [FileStream.fread, behind]
      rfl
    have stops : videoLoop (sendManagerWith (transmit frame)) (fuel + 1)
        ⟨content, position + unit.encode.length⟩ (overlay buffer 0 unit.encode) after
        (calls ++ [unit.bytes]) =
          some { ret := 0, calls := calls ++ [unit.bytes], leftOpen := 0, sender := after } := by
      simp only [videoLoop, ended, List.length_nil, if_true]
    exact ⟨_, turn.trans stops, fun _ => ⟨rfl, rfl⟩, fun fresh => absurd stale fresh⟩
  · have fresh : ¬(unit.longCode = true ∧ codeAt buffer unit.encode.length = true) := stale
    rw [if_neg fresh] at cut
    have filled : unit.encode.length ≠ 0 := by
      have positive := bytes_nonempty unit
      rw [NalUnit.encode, List.length_append]
      omega
    have fails : videoLoop (sendManagerWith (transmit frame)) (fuel + 2) ⟨content, position⟩ buffer
        sender calls = some { ret := -1, calls := calls, leftOpen := 1, sender := sender } := by
      simp only [videoLoop, read, if_neg filled, cut]
    exact ⟨_, fails, fun looksStale => absurd looksStale stale, fun _ => ⟨rfl, rfl⟩⟩

/-- The loop sends every unit exactly when the last one looks followed in the buffer. -/
theorem videoLoop_run (units : List NalUnit) (nonempty : units ≠ []) (fits : FitsBuffer units)
    (fuel : Nat) (enough : units.length + 1 ≤ fuel) (content : List UInt8) (position : Nat)
    (rest : content.drop position = encodeFile units) (buffer : Memory UInt8) (sender : Sender)
    (reliable : sender.socket.Reliable) (calls : List (List UInt8)) :
    ∃ run, videoLoop (sendManagerWith (transmit frame)) fuel ⟨content, position⟩ buffer sender
        calls = some run ∧
      (StaleCodeBehindLast buffer units →
        run.ret = 0 ∧ run.calls = calls ++ units.map NalUnit.bytes) ∧
      (¬StaleCodeBehindLast buffer units →
        run.ret = -1 ∧ run.calls = calls ++ units.dropLast.map NalUnit.bytes) := by
  induction units generalizing fuel position buffer sender calls with
  | nil => exact absurd rfl nonempty
  | cons unit units ih =>
      cases units with
      | nil =>
          obtain ⟨fuel, rfl⟩ : ∃ less, fuel = less + 2 :=
            ⟨fuel - 2, by simp only [List.length_singleton] at enough; omega⟩
          rw [encodeFile_cons, show encodeFile [] = [] from rfl, List.append_nil] at rest
          simpa using videoLoop_last frame fuel unit fits content position rest buffer sender
            reliable calls
      | cons next units =>
          obtain ⟨fuel, rfl⟩ : ∃ less, fuel = less + 1 := ⟨fuel - 1, by omega⟩
          obtain ⟨after, stillReliable, turn⟩ := videoLoop_next frame fuel unit next units fits.1
            content position rest buffer sender reliable calls
          have behind : content.drop (position + unit.encode.length) =
              encodeFile (next :: units) := by
            rw [← List.drop_drop, rest, encodeFile_cons, List.drop_left]
          obtain ⟨run, runs, streams, stops⟩ := ih (List.cons_ne_nil _ _) fits.2 fuel
            (by simpa using enough) (position + unit.encode.length) behind _ after stillReliable
            (calls ++ [unit.bytes])
          rw [List.append_assoc] at streams stops
          exact ⟨run, turn.trans runs, streams, stops⟩

end Loop

/-- The stream holds every unit once and in order, and the function returns zero. -/
def StreamsAll (units : List NalUnit) (run : VideoRun) : Prop :=
  run.ret = 0 ∧ run.calls = units.map NalUnit.bytes

/-- The whole file is streamed exactly when old bytes end its last unit like a start code. -/
theorem sendH264OverTcp_streams_iff (units : List NalUnit) (nonempty : units ≠ [])
    (fits : FitsBuffer units) (heap : Memory UInt8) (packetHeap : RtpPacket) (socket : Socket)
    (reliable : socket.Reliable) :
    ∃ run, sendH264OverTcp (some (encodeFile units)) heap packetHeap socket = some run ∧
      (StreamsAll units run ↔ StaleCodeBehindLast heap units) := by
  obtain ⟨run, runs, streams, stops⟩ := videoLoop_run (tcpFrame 0x00) units nonempty fits
    ((encodeFile units).length + 1) (Nat.succ_le_succ (units_length units)) (encodeFile units) 0
    rfl heap
    ⟨socket, rtpHeaderInit packetHeap 0 0 0 RTP_VESION RTP_PAYLOAD_TYPE_H264 0 0 0 0x88923423⟩
    reliable []
  refine ⟨run, runs, fun whole => ?_, fun stale => streams stale⟩
  by_contra fresh
  have failed := (stops fresh).1
  rw [whole.1] at failed
  exact absurd failed (by decide)

/-- This file holds one slice of one byte behind a three-byte code. -/
def oneSlice : NalUnit where
  longCode := false
  bytes := [0x65]
  noStartCode := by decide
  lastNonzero := ⟨[], 0x65, rfl, by decide⟩

/-- Behind the last unit the buffer still holds its start code from the first read. -/
def twoSlices : List NalUnit := [oneSlice, { oneSlice with longCode := true }]

theorem oneSlice_fits : FitsBuffer [oneSlice] := by
  simp [FitsBuffer, H264_FILE_BUFFER, oneSlice, NalUnit.encode, NalUnit.code]

theorem twoSlices_fit : FitsBuffer twoSlices := by
  simp [FitsBuffer, H264_FILE_BUFFER, twoSlices, oneSlice, NalUnit.encode, NalUnit.code]

/-- The first file loses its only unit, and the second one is streamed whole. -/
theorem sendH264OverTcp_streams_iff_slices :
    (∃ run, sendH264OverTcp (some [0, 0, 1, 0x65]) (fun _ => 0) wholeSender.rtpPacket
          wholeSender.socket = some run ∧
        (StreamsAll [oneSlice] run ↔ StaleCodeBehindLast (fun _ => 0) [oneSlice])) ∧
      ∃ run, sendH264OverTcp (some [0, 0, 1, 0x65, 0, 0, 0, 1, 0x65]) (fun _ => 0)
          wholeSender.rtpPacket wholeSender.socket = some run ∧
        (StreamsAll twoSlices run ↔ StaleCodeBehindLast (fun _ => 0) twoSlices) ∧
        StreamsAll twoSlices run := by
  refine ⟨sendH264OverTcp_streams_iff [oneSlice] (by decide) oneSlice_fits _ _ _
    wholeSender_delivers.reliable, ?_⟩
  obtain ⟨run, ran, exact⟩ := sendH264OverTcp_streams_iff twoSlices (by decide) twoSlices_fit
    (fun _ => 0) wholeSender.rtpPacket wholeSender.socket wholeSender_delivers.reliable
  have stale : StaleCodeBehindLast (fun _ => 0) twoSlices := ⟨rfl, by decide +kernel⟩
  exact ⟨run, ran, exact, exact.mpr stale⟩

/-- The loop fails on a file with one unit and sends nothing. -/
theorem sendH264OverTcp_loses_last :
    FitsBuffer [oneSlice] ∧ encodeFile [oneSlice] = [0, 0, 1, 0x65] ∧
      ∃ run, sendH264OverTcp (some (encodeFile [oneSlice])) (fun _ => 0) wholeSender.rtpPacket
          wholeSender.socket = some run ∧
        run.ret = -1 ∧ run.calls = [] ∧ ¬StreamsAll [oneSlice] run := by
  refine ⟨oneSlice_fits, rfl,
    { ret := -1, calls := [], leftOpen := 1, sender := ⟨wholeSender.socket, _⟩ }, rfl, rfl, rfl, ?_⟩
  intro whole
  exact absurd whole.1 (by decide)

end FzServer.Streaming
