import FzServer.Construction.Media.SendAac
import FzServer.Construction.Media.SendH264
import FzServer.Foundation.Loop

/-
This file follows the media loops turn by turn.
-/

namespace FzServer.Streaming

open Foundation Rtp H264 Aac Media

section Video

/-- The loop carries these values from one turn to the next. -/
structure VideoState where
  fp : FileStream UInt8
  buffer : Memory UInt8
  sender : Sender
  calls : List (List UInt8)

/-- The turn reads this chunk. -/
def VideoState.chunk (state : VideoState) : List UInt8 := (state.fp.fread H264_FILE_BUFFER).1

namespace VideoState

variable (state : VideoState)

/-- The buffer holds the chunk in front of what earlier reads left. -/
def rec_ : Memory UInt8 := overlay state.buffer 0 state.chunk

def cut : Option (Nat × FileStream UInt8) :=
  extract_content state.rec_ (state.fp.fread H264_FILE_BUFFER).2 state.chunk.length

def step : Nat := if startCode4 state.rec_ then 4 else if startCode3 state.rec_ then 3 else 0

/-- The unit stands behind the start code at the front. -/
def unit : Memory UInt8 := state.rec_.advance state.step

/-- The loop returns this when it ends without a unit. -/
def ended (ret : Int) (leftOpen : Nat) : VideoRun where
  ret := ret
  calls := state.calls
  leftOpen := leftOpen
  sender := state.sender

variable (send : Sender → Memory UInt8 → Nat → Int × Sender) (found : Nat)

/-- The start code at the front belongs to the length that the cut found. -/
def sending : Int × Sender := send state.sender state.unit (found - state.step)

def made : List (List UInt8) := state.calls ++ [window state.unit 0 (found - state.step)]

/-- The loop returns this when it ends with a unit that was not sent. -/
def refused : VideoRun where
  ret := -1
  calls := state.made found
  leftOpen := 1
  sender := (state.sending send found).2

/-- The loop goes on with this behind a unit. -/
def next (moved : FileStream UInt8) : VideoState where
  fp := moved
  buffer := state.rec_
  sender := (state.sending send found).2
  calls := state.made found

end VideoState

variable (send : Sender → Memory UInt8 → Nat → Int × Sender)

/-- A turn leaves the loop at the end of the file, without a second start code and on an error. -/
def videoTurn (state : VideoState) : VideoRun ⊕ VideoState :=
  let chunk := state.fp.fread H264_FILE_BUFFER
  let rec_ := overlay state.buffer 0 chunk.1
  let size := chunk.1.length
  if size = 0 then .inl { ret := 0, calls := state.calls, leftOpen := 0, sender := state.sender }
  else
    match extract_content rec_ chunk.2 size with
    | none => .inl { ret := -1, calls := state.calls, leftOpen := 1, sender := state.sender }
    | some (found, moved) =>
        let step := if startCode4 rec_ then 4 else if startCode3 rec_ then 3 else 0
        let filesize := found - step
        let unit := rec_.advance step
        let result := send state.sender unit filesize
        let made := state.calls ++ [window unit 0 filesize]
        if result.1 = -1 then
          .inl { ret := -1, calls := made, leftOpen := 1, sender := result.2 }
        else .inr ⟨moved, rec_, result.2, made⟩

theorem videoLoop_eq_loop (fuel : Nat) (fp : FileStream UInt8) (buffer : Memory UInt8)
    (sender : Sender) (calls : List (List UInt8)) :
    videoLoop send fuel fp buffer sender calls =
      loop (videoTurn send) fuel ⟨fp, buffer, sender, calls⟩ := by
  induction fuel generalizing fp buffer sender calls with
  | zero => rfl
  | succ fuel ih =>
      rw [videoLoop, loop, videoTurn]
      dsimp only
      by_cases ended : (fp.fread H264_FILE_BUFFER).1.length = 0
      · rw [if_pos ended, if_pos ended]
      · rw [if_neg ended, if_neg ended]
        cases extract_content (overlay buffer 0 (fp.fread H264_FILE_BUFFER).1)
            (fp.fread H264_FILE_BUFFER).2 (fp.fread H264_FILE_BUFFER).1.length with
        | none => rfl
        | some result =>
            obtain ⟨found, moved⟩ := result
            dsimp only
            generalize (if startCode4 (overlay buffer 0 (fp.fread H264_FILE_BUFFER).1) then 4
              else if startCode3 (overlay buffer 0 (fp.fread H264_FILE_BUFFER).1) then 3
              else 0) = step
            by_cases failed : (send sender
                ((overlay buffer 0 (fp.fread H264_FILE_BUFFER).1).advance step)
                (found - step)).1 = -1
            · rw [if_pos failed, if_pos failed]
            · rw [if_neg failed, if_neg failed]
              exact ih _ _ _ _

variable {send}

variable (send) in
/-- A turn finds the end of the file, no unit, a unit that is refused, or a unit that is sent. -/
theorem videoTurn_cases (state : VideoState) :
    (state.chunk = [] ∧ videoTurn send state = .inl (state.ended 0 0)) ∨
      (state.chunk ≠ [] ∧ state.cut = none ∧ videoTurn send state = .inl (state.ended (-1) 1)) ∨
        ∃ found moved, state.chunk ≠ [] ∧ state.cut = some (found, moved) ∧
          ((state.sending send found).1 = -1 ∧
              videoTurn send state = .inl (state.refused send found) ∨
            (state.sending send found).1 ≠ -1 ∧
              videoTurn send state = .inr (state.next send found moved)) := by
  by_cases ended : state.chunk = []
  · exact Or.inl ⟨ended, if_pos (List.length_eq_zero_iff.mpr ended)⟩
  have filled : ¬state.chunk.length = 0 := fun short => ended (List.length_eq_zero_iff.mp short)
  have body : videoTurn send state = state.cut.elim (.inl (state.ended (-1) 1)) fun result =>
      if (state.sending send result.1).1 = -1 then .inl (state.refused send result.1)
      else .inr (state.next send result.1 result.2) := by
    refine (if_neg filled).trans ?_
    rw [VideoState.cut, VideoState.rec_, VideoState.chunk]
    cases extract_content (overlay state.buffer 0 (state.fp.fread H264_FILE_BUFFER).1)
        (state.fp.fread H264_FILE_BUFFER).2 (state.fp.fread H264_FILE_BUFFER).1.length <;> rfl
  right
  rcases Option.eq_none_or_eq_some state.cut with cut | ⟨⟨found, moved⟩, cut⟩
  · rw [body, cut]
    exact Or.inl ⟨ended, rfl, rfl⟩
  · rw [body, cut, Option.elim_some]
    refine Or.inr ⟨found, moved, ended, rfl, ?_⟩
    split_ifs with failed
    · exact Or.inl ⟨failed, rfl⟩
    · exact Or.inr ⟨failed, rfl⟩

/-- A turn that leaves the loop has found no more unit or could not send it. -/
theorem videoTurn_stops {state : VideoState} {run : VideoRun}
    (leaves : videoTurn send state = .inl run) :
    (state.chunk = [] ∧ run = state.ended 0 0) ∨
      (state.chunk ≠ [] ∧ state.cut = none ∧ run = state.ended (-1) 1) ∨
        ∃ found moved, state.chunk ≠ [] ∧ state.cut = some (found, moved) ∧
          (state.sending send found).1 = -1 ∧ run = state.refused send found := by
  obtain ⟨empty, now⟩ | ⟨filled, uncut, now⟩ |
    ⟨found, moved, filled, cut, ⟨failed, now⟩ | ⟨_, now⟩⟩ := videoTurn_cases send state
  · exact Or.inl ⟨empty, Sum.inl.inj (leaves.symm.trans now)⟩
  · exact Or.inr (Or.inl ⟨filled, uncut, Sum.inl.inj (leaves.symm.trans now)⟩)
  · exact Or.inr (Or.inr
      ⟨found, moved, filled, cut, failed, Sum.inl.inj (leaves.symm.trans now)⟩)
  · nomatch leaves.symm.trans now

/-- A turn that goes on has sent one unit. -/
theorem videoTurn_goes {state next : VideoState} (on : videoTurn send state = .inr next) :
    ∃ found moved, state.chunk ≠ [] ∧ state.cut = some (found, moved) ∧
      (state.sending send found).1 ≠ -1 ∧ next = state.next send found moved := by
  obtain ⟨_, now⟩ | ⟨_, _, now⟩ | ⟨found, moved, filled, cut, ⟨_, now⟩ | ⟨sent, now⟩⟩ :=
    videoTurn_cases send state
  · nomatch on.symm.trans now
  · nomatch on.symm.trans now
  · nomatch on.symm.trans now
  · exact ⟨found, moved, filled, cut, sent, Sum.inr.inj (on.symm.trans now)⟩

/-- A turn that goes on has moved the file by the unit and its start code. -/
theorem videoTurn_moves {state next : VideoState} (on : videoTurn send state = .inr next) :
    ∃ found, 3 ≤ found ∧ found ≤ state.chunk.length ∧
      next.fp = { state.fp with position := state.fp.position + found } := by
  obtain ⟨found, moved, _, cut, _, rfl⟩ := videoTurn_goes on
  obtain ⟨least, most, rfl⟩ := extract_content_bounds cut
  exact ⟨found, least, most, FileStream.fseek_fread state.fp H264_FILE_BUFFER found⟩

/-- A turn that goes on leaves less of the file. -/
theorem videoTurn_spends {state next : VideoState} (on : videoTurn send state = .inr next) :
    next.fp.unread.length + 1 ≤ state.fp.unread.length := by
  obtain ⟨found, least, most, moved⟩ := videoTurn_moves on
  rw [VideoState.chunk, FileStream.fread_cells, List.length_take, FileStream.unread,
    List.length_drop] at most
  rw [moved, FileStream.unread, FileStream.unread, List.length_drop, List.length_drop]
  dsimp only
  omega

/-- The state in front of the first turn holds whatever the allocations gave. -/
def videoStart (content : List UInt8) (heap : Memory UInt8) (packetHeap : RtpPacket)
    (socket : Socket) : VideoState :=
  ⟨⟨content, 0⟩, heap, ⟨socket, rtpHeaderInit packetHeap 0 0 0 RTP_VESION RTP_PAYLOAD_TYPE_H264 0 0
    0 0x88923423⟩, []⟩

/-- The thread makes these turns. -/
theorem sendH264Over_eq_loop (content : List UInt8) (heap : Memory UInt8) (packetHeap : RtpPacket)
    (socket : Socket) :
    sendH264Over send (some content) heap packetHeap socket =
      loop (videoTurn send) (content.length + 1) (videoStart content heap packetHeap socket) :=
  videoLoop_eq_loop send _ _ _ _ _

/-- The file is the same in front of every turn, and the position is inside. -/
def InFile (content : List UInt8) (state : VideoState) : Prop :=
  state.fp.content = content ∧ state.fp.position ≤ content.length

theorem InFile.turns {content : List UInt8} {state next : VideoState}
    (inside : InFile content state) (on : videoTurn send state = .inr next) :
    InFile content next ∧ state.fp.position + 3 ≤ next.fp.position ∧
      next.fp.position ≤ state.fp.position + state.chunk.length := by
  obtain ⟨found, least, most, moved⟩ := videoTurn_moves on
  obtain ⟨same, room⟩ := inside
  have delivered : state.chunk.length ≤ content.length - state.fp.position := by
    rw [VideoState.chunk, FileStream.fread_cells, FileStream.unread, List.length_take,
      List.length_drop, same]
    exact Nat.min_le_right _ _
  rw [InFile, moved]
  dsimp only
  exact ⟨⟨same, by omega⟩, by omega, by omega⟩

/-- Each turn that goes on moves the file by three bytes or more, and the loop ends in time. -/
theorem sendH264OverTcp_progress (content : List UInt8) (heap : Memory UInt8)
    (packetHeap : RtpPacket) (socket : Socket) :
    let start := videoStart content heap packetHeap socket
    (∀ state next, Visits (videoTurn sendManagerTcp) start state →
      videoTurn sendManagerTcp state = .inr next →
        state.fp.position + 3 ≤ next.fp.position ∧
          next.fp.position ≤ state.fp.position + state.chunk.length ∧
          next.fp.position ≤ content.length) ∧
      ∃ run, loop (videoTurn sendManagerTcp) (content.length / 3 + 1) start = some run ∧
        sendH264OverTcp (some content) heap packetHeap socket = some run := by
  intro start
  have first : InFile content start := ⟨rfl, Nat.zero_le _⟩
  constructor
  · intro state next visits on
    have inside := visits.invariant (InFile content) first fun _ _ here on => (here.turns on).1
    obtain ⟨after, least, most⟩ := inside.turns on
    exact ⟨least, most, after.2⟩
  · obtain ⟨run, ends⟩ := loop_ends (fun state : VideoState => content.length - state.fp.position)
      (show 0 < 3 by decide) (InFile content)
      (fun state next here on => by
        obtain ⟨after, least, _⟩ := here.turns on
        have room := after.2
        exact ⟨after, by omega⟩) first
    refine ⟨run, ends, ?_⟩
    change sendH264Over sendManagerTcp (some content) heap packetHeap socket = some run
    rw [sendH264Over_eq_loop]
    exact loop_mono (Nat.succ_le_succ (Nat.div_le_self _ _)) ends

end Video

section Audio

/-- The loop carries these values from one turn to the next. -/
structure AudioState where
  fp : FileStream UInt8
  buffer : Memory UInt8
  frame : Nat
  sender : Sender
  calls : List (List UInt8)

namespace AudioState

variable (state : AudioState)

/-- The first read of the turn delivers these bytes. -/
def head : List UInt8 := (state.fp.fread 7).1

def headed : Memory UInt8 := overlay state.buffer state.frame state.head

def parsed : Int × AdtsHeader := parseAdtsHeader (state.headed.advance state.frame)

/-- The second read of the turn asks for this number of bytes. -/
def count : UInt32 := state.parsed.2.aacFrameLength - 7

def body : List UInt8 := ((state.fp.fread 7).2.fread state.count.toNat).1

def skipped : Nat := if state.parsed.2.protectionAbsent = 0 then 2 else 0

/-- This is the size that the turn passes on. -/
def frameSize : UInt32 := UInt32.ofInt (readSize state.body - state.skipped)

def raw : Memory UInt8 :=
  (overlay state.headed state.frame state.body).advance (state.frame + state.skipped)

/-- The loop returns this when it ends in this turn. -/
def stopped : AudioRun where
  ret := 0
  calls := state.calls
  frame := state.frame
  leftOpen := 0
  sender := state.sender

/-- The loop goes on with this when it sends a frame. -/
def next (send : Sender → Memory UInt8 → UInt32 → Int × Sender) : AudioState where
  fp := ((state.fp.fread 7).2.fread state.count.toNat).2
  buffer := overlay state.headed state.frame state.body
  frame := state.frame + state.skipped
  sender := (send state.sender state.raw state.frameSize).2
  calls := state.calls ++ [window state.raw 0 state.frameSize.toNat]

end AudioState

variable (send : Sender → Memory UInt8 → UInt32 → Int × Sender)

/-- A turn leaves the loop without a header, without a sync word and without a frame. -/
def audioTurn (state : AudioState) : AudioRun ⊕ AudioState :=
  if readSize state.head ≤ 0 then .inl state.stopped
  else if state.parsed.1 = -1 then .inl state.stopped
  else if readSize state.body ≤ 0 then .inl state.stopped
  else .inr (state.next send)

theorem audioLoop_eq_loop (fuel : Nat) (state : AudioState) :
    audioLoop send fuel state.fp state.buffer state.frame state.sender state.calls =
      loop (audioTurn send) fuel state := by
  induction fuel generalizing state with
  | zero => rfl
  | succ fuel ih =>
      rw [audioLoop]
      by_cases ended : readSize state.head ≤ 0
      · have turn : audioTurn send state = .inl state.stopped := if_pos ended
        rw [loop_inl turn]
        exact if_pos ended
      by_cases refused : state.parsed.1 = -1
      · have turn : audioTurn send state = .inl state.stopped :=
          (if_neg ended).trans (if_pos refused)
        rw [loop_inl turn]
        exact (if_neg ended).trans (if_pos refused)
      by_cases empty : readSize state.body ≤ 0
      · have turn : audioTurn send state = .inl state.stopped :=
          (if_neg ended).trans ((if_neg refused).trans (if_pos empty))
        rw [loop_inl turn]
        exact (if_neg ended).trans ((if_neg refused).trans (if_pos empty))
      · have turn : audioTurn send state = .inr (state.next send) :=
          (if_neg ended).trans ((if_neg refused).trans (if_neg empty))
        rw [loop_inr turn, ← ih]
        exact (if_neg ended).trans ((if_neg refused).trans (if_neg empty))

variable {send}

/-- A turn that leaves the loop sends nothing. -/
theorem audioTurn_stops {state : AudioState} {run : AudioRun}
    (leaves : audioTurn send state = .inl run) : run = state.stopped := by
  rw [audioTurn] at leaves
  split_ifs at leaves <;> exact (Sum.inl.inj leaves).symm

/-- A turn that goes on has read a header and sends one frame. -/
theorem audioTurn_goes {state next : AudioState} (on : audioTurn send state = .inr next) :
    0 < readSize state.head ∧ next = state.next send := by
  rw [audioTurn] at on
  split_ifs at on with ended
  exact ⟨Int.not_le.mp ended, (Sum.inr.inj on).symm⟩

/-- A turn that goes on leaves less of the file. -/
theorem audioTurn_spends {state next : AudioState} (on : audioTurn send state = .inr next) :
    next.fp.unread.length + 1 ≤ state.fp.unread.length := by
  obtain ⟨positive, rfl⟩ := audioTurn_goes on
  have present : state.head ≠ [] := by
    intro empty
    rw [empty] at positive
    exact absurd positive (by decide)
  have headed := List.length_pos_iff.mpr present
  rw [AudioState.head, FileStream.fread_cells, List.length_take] at headed
  rw [AudioState.next, FileStream.fread_unread, FileStream.fread_unread, List.length_drop,
    List.length_drop]
  omega

/-- The state in front of the first turn holds whatever the allocations gave. -/
def audioStart (content : List UInt8) (heap : Memory UInt8) (packetHeap : RtpPacket)
    (socket : Socket) : AudioState :=
  ⟨⟨content, 0⟩, heap, 0, ⟨socket, rtpHeaderInit packetHeap 0 0 0 RTP_VESION RTP_PAYLOAD_TYPE_AAC 1
    0 0 0x32611⟩, []⟩

variable (send)

/-- The thread makes these turns. -/
theorem sendAacOver_eq_loop (content : List UInt8) (heap : Memory UInt8) (packetHeap : RtpPacket)
    (socket : Socket) :
    sendAacOver send (some content) heap packetHeap socket =
      loop (audioTurn send) (content.length + 1) (audioStart content heap packetHeap socket) :=
  audioLoop_eq_loop send _ (audioStart content heap packetHeap socket)

/-- The audio thread ends on every file. -/
theorem sendAacOver_ends (file : Option (List UInt8)) (heap : Memory UInt8)
    (packetHeap : RtpPacket) (socket : Socket) :
    ∃ run, sendAacOver send file heap packetHeap socket = some run := by
  cases file with
  | none => exact ⟨_, rfl⟩
  | some content =>
      let start := audioStart content heap packetHeap socket
      have ends : ∃ run, loop (audioTurn send) (start.fp.unread.length / 1 + 1) start = some run :=
        loop_ends (fun state : AudioState => state.fp.unread.length) Nat.one_pos (fun _ => True)
          (fun _ _ _ on => ⟨trivial, audioTurn_spends on⟩) trivial
      rw [sendAacOver_eq_loop]
      rwa [Nat.div_one] at ends

end Audio

end FzServer.Streaming
