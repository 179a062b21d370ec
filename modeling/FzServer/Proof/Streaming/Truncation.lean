import FzServer.Proof.Streaming.AudioFile

/-
This file cuts a well-formed audio file at any byte and follows the audio loop to its end.
-/

namespace FzServer.Streaming

open Foundation Rtp Aac Media Packetisation

/-- The receiver reads these access units from the buffers between two states. -/
def unitsSent (before after : Sender) : List (Option (List (Nat × List UInt8))) :=
  (buffersSent before after).map fun buffer => accessUnits (buffer.drop (4 + RTP_HEADER_SIZE))

/-- One packet carries one access unit alone. -/
def oneUnit (raw : List UInt8) : Option (List (Nat × List UInt8)) := some [(0, raw)]

/-- Each access unit is the raw frame at its place, and the file holds that frame in full. -/
def SendsWholeFrames (frames : List AdtsFrame) (cut : Nat)
    (units : List (Option (List (Nat × List UInt8)))) : Prop :=
  ∀ index unit, units[index]? = some unit → ∃ frame, frames[index]? = some frame ∧
    unit = oneUnit frame.raw ∧ (encodeAudio (frames.take (index + 1))).length ≤ cut

/-- The file ends between the first and the last byte behind a header. -/
def CutsData (frames : List AdtsFrame) (cut : Nat) : Prop :=
  ∃ front frame rest, frames = front ++ frame :: rest ∧ (encodeAudio front).length + 7 < cut ∧
    cut < (encodeAudio front).length + frame.encode.length

/-- The loop takes what the cut leaves of a frame for the whole frame. -/
def rawsOfCut : List AdtsFrame → Nat → List (List UInt8)
  | [], _ => []
  | frame :: frames, cut =>
      if frame.encode.length ≤ cut then frame.raw :: rawsOfCut frames (cut - frame.encode.length)
      else if 7 < cut then [frame.raw.take (cut - 7)]
      else []

theorem encodeAudio_cons (frame : AdtsFrame) (frames : List AdtsFrame) :
    encodeAudio (frame :: frames) = frame.encode ++ encodeAudio frames := rfl

theorem encode_length (frame : AdtsFrame) :
    frame.encode.length = 7 + (frame.check.length + frame.raw.length) := by
  rw [AdtsFrame.encode, List.length_append, AdtsFields.bytes_length, List.length_append]

section Frames

variable {frame : AdtsFrame} {frames : List AdtsFrame} {cut : Nat}

theorem cutsData_cons : CutsData (frame :: frames) cut ↔
    7 < cut ∧ cut < frame.encode.length ∨
      frame.encode.length ≤ cut ∧ CutsData frames (cut - frame.encode.length) := by
  constructor
  · rintro ⟨front, hit, rest, split, above, below⟩
    cases front with
    | nil =>
        cases split
        rw [show encodeAudio [] = [] from rfl, List.length_nil] at above below
        exact Or.inl ⟨by omega, by omega⟩
    | cons first front =>
        cases split
        rw [encodeAudio_cons, List.length_append] at above below
        exact Or.inr ⟨by omega, front, hit, rest, rfl, by omega, by omega⟩
  · rintro (⟨above, below⟩ | ⟨whole, front, hit, rest, rfl, above, below⟩)
    · exact ⟨[], frame, frames, rfl, by simpa [encodeAudio] using above,
        by simpa [encodeAudio] using below⟩
    · refine ⟨frame :: front, hit, rest, rfl, ?_, ?_⟩
      · rw [encodeAudio_cons, List.length_append]
        omega
      · rw [encodeAudio_cons, List.length_append]
        omega

theorem sendsWholeFrames_cons (units : List (Option (List (Nat × List UInt8)))) :
    SendsWholeFrames (frame :: frames) cut (oneUnit frame.raw :: units) ↔
      frame.encode.length ≤ cut ∧ SendsWholeFrames frames (cut - frame.encode.length) units := by
  have length (index : Nat) : (encodeAudio ((frame :: frames).take (index + 1))).length =
      frame.encode.length + (encodeAudio (frames.take index)).length := by
    rw [List.take_succ_cons, encodeAudio_cons, List.length_append]
  constructor
  · intro whole
    obtain ⟨_, _, _, inside⟩ := whole 0 _ rfl
    rw [length] at inside
    refine ⟨by omega, fun index unit there => ?_⟩
    obtain ⟨hit, place, same, fits⟩ := whole (index + 1) unit there
    rw [length] at fits
    exact ⟨hit, place, same, by omega⟩
  · rintro ⟨fits, whole⟩ index unit there
    cases index with
    | zero =>
        cases there
        refine ⟨frame, rfl, rfl, ?_⟩
        rw [length]
        exact fits
    | succ index =>
        obtain ⟨hit, place, same, inside⟩ := whole index unit there
        refine ⟨hit, place, same, ?_⟩
        rw [length]
        omega

/-- A short piece is not a frame of the file in full. -/
theorem sendsWholeFrames_piece (units : List (Option (List (Nat × List UInt8))))
    (short : cut < frame.encode.length) (unit : Option (List (Nat × List UInt8))) :
    ¬SendsWholeFrames (frame :: frames) cut (unit :: units) := by
  intro whole
  obtain ⟨_, _, _, inside⟩ := whole 0 unit rfl
  rw [List.take_succ_cons, encodeAudio_cons, List.length_append] at inside
  omega

/-- The pieces are whole frames exactly when no piece ends inside the data of its frame. -/
theorem rawsOfCut_whole_iff (frames : List AdtsFrame) (cut : Nat) :
    SendsWholeFrames frames cut ((rawsOfCut frames cut).map oneUnit) ↔ ¬CutsData frames cut := by
  induction frames generalizing cut with
  | nil =>
      refine iff_of_true (fun index unit there => nomatch there) ?_
      rintro ⟨front, frame, rest, split, _⟩
      exact absurd split (by simp)
  | cons frame frames ih =>
      have header := encode_length frame
      rw [rawsOfCut, cutsData_cons]
      split_ifs with whole some_data
      · rw [List.map_cons, sendsWholeFrames_cons, ih]
        have later : ¬(7 < cut ∧ cut < frame.encode.length) := by omega
        simp only [whole, later, true_and, false_or]
      · refine iff_of_false (sendsWholeFrames_piece _ (by omega) _) ?_
        exact not_not_intro (Or.inl ⟨some_data, by omega⟩)
      · refine iff_of_true (fun index unit there => nomatch there) ?_
        rintro (⟨above, _⟩ | ⟨above, _⟩)
        · exact some_data above
        · exact whole above

end Frames

/-- A frame leaves in one buffer, whether or not the socket takes it. -/
theorem rtpSendAACFrameTcp_hands (sender : Sender) (raw : Memory UInt8) (frameSize : UInt32)
    (small : frameSize.toNat < 8192) :
    ∃ buffer, (rtpSendAACFrameTcp sender raw frameSize).2.socket.sent =
        sender.socket.sent ++ [buffer] ∧
      accessUnits (buffer.drop (4 + RTP_HEADER_SIZE)) =
        oneUnit (window raw 0 frameSize.toNat) := by
  have unit := accessUnits_aacPayload raw frameSize small
  refine ⟨tcpFrame 0x02 (wirePacket sender.rtpPacket.rtpHeader (aacPayload raw frameSize)), ?_, ?_⟩
  · rcases rtpSendAACFrameWith_outcome (tcpFrame 0x02) sender raw frameSize (by omega) with
      ⟨_, _, taken, last, rest, split, sent, _⟩ | ⟨middle, delivers, result⟩
    · cases taken with
      | nil =>
          rw [List.nil_append] at split
          obtain ⟨rfl, _⟩ := List.cons.inj split
          rw [List.append_nil] at sent
          exact sent
      | cons first taken =>
          have tail := congrArg List.length split
          simp only [framesOf, wirePackets, List.length_map, List.length_append,
            List.length_cons, List.length_nil] at tail
          omega
    · rw [show (rtpSendAACFrameTcp sender raw frameSize).2 = _ from congrArg Prod.snd result]
      exact delivers.sent
  · rw [← List.drop_drop, tcpFrame_drop, wirePacket_drop, unit]
    rfl

/-- The loop hands over what the cut leaves of each frame, and no other bytes. -/
theorem audioLoop_cut (frames : List AdtsFrame) (plain : ∀ frame ∈ frames, frame.crc = none)
    (cut : Nat) (state : AudioState) (ahead : state.fp.unread = (encodeAudio frames).take cut)
    (fuel : Nat) (run : AudioRun)
    (ends : loop (audioTurn rtpSendAACFrameTcp) fuel state = some run) :
    ∃ buffers, run.sender.socket.sent = state.sender.socket.sent ++ buffers ∧
      buffers.map (fun buffer => accessUnits (buffer.drop (4 + RTP_HEADER_SIZE))) =
        (rawsOfCut frames cut).map oneUnit := by
  induction frames generalizing cut state fuel with
  | nil =>
      rw [show encodeAudio [] = [] from rfl, List.take_nil] at ahead
      rw [loop_stops (audioTurn_end _ ahead) ends]
      exact ⟨[], (List.append_nil _).symm, rfl⟩
  | cons frame frames ih =>
      have check : frame.check = [] := by
        rw [AdtsFrame.check, plain frame List.mem_cons_self]
      have header := encode_length frame
      have small := raw_small frame
      rw [check, List.length_nil, Nat.zero_add] at header
      rw [encodeAudio_cons, List.take_append] at ahead
      rw [rawsOfCut]
      split_ifs with whole some_data
      · rw [List.take_of_length_le whole] at ahead
        obtain ⟨turn, left, _, size, held⟩ := audioTurn_frame rtpSendAACFrameTcp ahead
        obtain ⟨less, rest⟩ := loop_goes turn ends
        obtain ⟨buffers, sent, units⟩ := ih
          (fun other inside => plain other (List.mem_cons_of_mem _ inside)) _ _ left less rest
        obtain ⟨buffer, handed, unit⟩ := rtpSendAACFrameTcp_hands state.sender state.raw
          state.frameSize (by omega)
        refine ⟨buffer :: buffers, ?_, ?_⟩
        · rw [sent, show (state.next rtpSendAACFrameTcp).sender.socket.sent = _ from handed,
            List.append_assoc, List.singleton_append]
        · rw [List.map_cons, List.map_cons, unit, units, size, held]
      · -- The second read delivers a piece, and the next turn finds the end of the file.
        have none_left : cut - frame.encode.length = 0 := by omega
        have piece : state.fp.unread = frame.fields.bytes ++ frame.raw.take (cut - 7) := by
          rw [ahead, none_left, List.take_zero, List.append_nil, AdtsFrame.encode, check,
            List.nil_append, List.take_append, AdtsFields.bytes_length,
            List.take_of_length_le (by rw [AdtsFields.bytes_length]; omega)]
        have length : (frame.raw.take (cut - 7)).length = cut - 7 := by
          rw [List.length_take]
          omega
        have present : frame.raw.take (cut - 7) ≠ [] := by
          rw [← List.length_pos_iff]
          omega
        have shorter : (frame.raw.take (cut - 7)).length ≤ (frame.check ++ frame.raw).length := by
          rw [length, check, List.nil_append]
          omega
        have turn := AudioState.audioTurn_header rtpSendAACFrameTcp piece
        rw [if_neg present] at turn
        have left := AudioState.next_unread rtpSendAACFrameTcp piece
        rw [List.drop_of_length_le shorter] at left
        obtain ⟨size, held⟩ := AudioState.raw_frame piece
          (by rw [List.take_of_length_le shorter, check, List.nil_append])
        obtain ⟨less, rest⟩ := loop_goes turn ends
        obtain ⟨buffer, handed, unit⟩ := rtpSendAACFrameTcp_hands state.sender state.raw
          state.frameSize (by omega)
        rw [loop_stops (audioTurn_end _ left) rest]
        refine ⟨[buffer], handed, ?_⟩
        rw [List.map_singleton, List.map_singleton, unit, size, held]
      · rw [loop_stops (audioTurn_short _ ?_) ends]
        · exact ⟨[], (List.append_nil _).symm, rfl⟩
        · rw [ahead, List.length_append, List.length_take, List.length_take]
          omega

/-- The access units on the wire are what the cut leaves of the frames. -/
theorem sendAacOverTcp_cut (frames : List AdtsFrame) (plain : ∀ frame ∈ frames, frame.crc = none)
    (cut : Nat) (heap : Memory UInt8) (packetHeap : RtpPacket) (socket : Socket) :
    ∃ run, sendAacOverTcp (some ((encodeAudio frames).take cut)) heap packetHeap socket =
        some run ∧
      unitsSent ⟨socket, packetHeap⟩ run.sender = (rawsOfCut frames cut).map oneUnit := by
  obtain ⟨run, ran⟩ := sendAacOver_ends rtpSendAACFrameTcp (some ((encodeAudio frames).take cut))
    heap packetHeap socket
  refine ⟨run, ran, ?_⟩
  rw [sendAacOver_eq_loop] at ran
  obtain ⟨buffers, sent, units⟩ := audioLoop_cut frames plain cut _ rfl _ run ran
  rw [unitsSent, buffersSent, sent]
  exact (congrArg (List.map _) List.drop_left).trans units

/-- A cut file yields whole frames alone exactly when it does not end inside the data of a frame. -/
theorem sendAacOverTcp_truncated_iff (frames : List AdtsFrame)
    (plain : ∀ frame ∈ frames, frame.crc = none) (cut : Nat) (heap : Memory UInt8)
    (packetHeap : RtpPacket) (socket : Socket) :
    ∃ run, sendAacOverTcp (some ((encodeAudio frames).take cut)) heap packetHeap socket =
        some run ∧
      (SendsWholeFrames frames cut (unitsSent ⟨socket, packetHeap⟩ run.sender) ↔
        ¬CutsData frames cut) := by
  obtain ⟨run, ran, units⟩ := sendAacOverTcp_cut frames plain cut heap packetHeap socket
  refine ⟨run, ran, ?_⟩
  rw [units]
  exact rawsOfCut_whole_iff frames cut

/-- A cut inside the header of a second frame leaves the first. -/
theorem sendAacOverTcp_truncated_short :
    ∃ run, sendAacOverTcp (some ((encodeAudio [shortFrame, shortFrame]).take 12)) (fun _ => 0)
        wholeSender.rtpPacket wholeSender.socket = some run ∧
      (SendsWholeFrames [shortFrame, shortFrame] 12 (unitsSent wholeSender run.sender) ↔
        ¬CutsData [shortFrame, shortFrame] 12) :=
  sendAacOverTcp_truncated_iff [shortFrame, shortFrame] (by simp [shortFrame]) 12 (fun _ => 0)
    wholeSender.rtpPacket wholeSender.socket

/-- A file that ends behind the first of two data bytes sends that byte as a frame. -/
theorem sendAacOverTcp_sendsPiece :
    ∃ run, sendAacOverTcp (some ((encodeAudio [shortFrame]).take 8)) (fun _ => 0)
        wholeSender.rtpPacket wholeSender.socket = some run ∧
      unitsSent wholeSender run.sender = [some [(0, [5])]] ∧
      ¬SendsWholeFrames [shortFrame] 8 (unitsSent wholeSender run.sender) := by
  obtain ⟨run, ran, units⟩ := sendAacOverTcp_cut [shortFrame] (by simp [shortFrame]) 8
    (fun _ => 0) wholeSender.rtpPacket wholeSender.socket
  have piece : rawsOfCut [shortFrame] 8 = [[5]] := by decide
  rw [piece] at units
  refine ⟨run, ran, units, fun whole => ?_⟩
  obtain ⟨_, _, _, inside⟩ := whole 0 (some [(0, [5])]) (congrArg (fun sent => sent[0]?) units)
  exact absurd inside (by decide)

end FzServer.Streaming
