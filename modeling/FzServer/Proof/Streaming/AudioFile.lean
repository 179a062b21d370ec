import FzServer.Proof.Packetisation.Demultiplex
import FzServer.Proof.Streaming.AdtsLayout
import FzServer.Proof.Streaming.Turns

/-
This file follows the audio loop through a file of well-formed ADTS frames.
-/

namespace FzServer.Streaming

open Foundation Rtp Aac Media Packetisation

/-- A CRC of two bytes may stand between the header and the raw frame. -/
structure AdtsFrame where
  fields : AdtsFields
  crc : Option (UInt8 × UInt8)
  raw : List UInt8
  sync : fields.syncword = 0xFFF
  absent : fields.protectionAbsent = if crc.isNone then 1 else 0
  nonempty : 1 ≤ raw.length
  length : fields.aacFrameLength.toNat = 7 + (if crc.isNone then 0 else 2) + raw.length

def AdtsFrame.check (frame : AdtsFrame) : List UInt8 :=
  match frame.crc with
  | none => []
  | some (first, second) => [first, second]

/-- The file holds the header, the CRC, and the raw frame. -/
def AdtsFrame.encode (frame : AdtsFrame) : List UInt8 :=
  frame.fields.bytes ++ (frame.check ++ frame.raw)

def encodeAudio (frames : List AdtsFrame) : List UInt8 := frames.flatMap AdtsFrame.encode

/-- An AU header holds a size of thirteen bits and an index of three bits. -/
structure AuHeader where
  size : Nat
  index : Nat

def readAuHeaders : Nat → List UInt8 → Option (List AuHeader × List UInt8)
  | 0, rest => some ([], rest)
  | count + 1, high :: low :: rest =>
      let word := 256 * high.toNat + low.toNat
      (readAuHeaders count rest).map fun found => (⟨word / 8, word % 8⟩ :: found.1, found.2)
  | _ + 1, _ => none

/-- The access units fill the payload behind their headers. -/
def splitAccessUnits : List AuHeader → List UInt8 → Option (List (Nat × List UInt8))
  | [], [] => some []
  | [], _ :: _ => none
  | header :: headers, data =>
      if data.length < header.size then none
      else (splitAccessUnits headers (data.drop header.size)).map
        ((header.index, data.take header.size) :: ·)

/-- The payload starts with the length of its AU headers in bits. -/
def accessUnits : List UInt8 → Option (List (Nat × List UInt8))
  | high :: low :: rest =>
      let bits := 256 * high.toNat + low.toNat
      if bits % 16 = 0 then
        (readAuHeaders (bits / 16) rest).bind fun found => splitAccessUnits found.1 found.2
      else none
  | _ => none

/-- The AU header holds every size of thirteen bits. -/
theorem auHeaders_size (frameSize : UInt32) (small : frameSize.toNat < 8192) :
    256 * ((frameSize &&& 0x1FE0) >>> 5).toUInt8.toNat +
      ((frameSize &&& 0x1F) <<< 3).toUInt8.toNat = 8 * frameSize.toNat := by
  have high : ((frameSize &&& 0x1FE0) >>> 5).toUInt8.toNat = frameSize.toNat / 32 := by
    rw [UInt32.toNat_toUInt8, UInt32.toNat_shiftRight, UInt32.toNat_and]
    change ((frameSize.toNat &&& 0x1FE0) >>> 5) % 2 ^ 8 = frameSize.toNat / 32
    rw [Nat.shiftRight_and_distrib, Nat.shiftRight_eq_div_pow]
    change (frameSize.toNat / 2 ^ 5 &&& 2 ^ 8 - 1) % 2 ^ 8 = frameSize.toNat / 32
    rw [Nat.and_two_pow_sub_one_eq_mod]
    omega
  have low : ((frameSize &&& 0x1F) <<< 3).toUInt8.toNat = 8 * (frameSize.toNat % 32) := by
    rw [UInt32.toNat_toUInt8, UInt32.toNat_shiftLeft, UInt32.toNat_and]
    change ((frameSize.toNat &&& 2 ^ 5 - 1) <<< 3 % 2 ^ 32) % 2 ^ 8 = 8 * (frameSize.toNat % 32)
    rw [Nat.and_two_pow_sub_one_eq_mod, Nat.shiftLeft_eq]
    omega
  rw [high, low]
  omega

/-- The receiver takes exactly the raw frame out of a payload. -/
theorem accessUnits_aacPayload (raw : Memory UInt8) (frameSize : UInt32)
    (small : frameSize.toNat < 8192) :
    accessUnits (aacPayload raw frameSize) = some [(0, window raw 0 frameSize.toNat)] := by
  have word := auHeaders_size frameSize small
  have bits : 256 * (0x00 : UInt8).toNat + (0x10 : UInt8).toNat = 16 := rfl
  have one : 16 / 16 = 0 + 1 := rfl
  simp only [aacPayload, auHeaders, List.cons_append, List.nil_append, accessUnits, bits,
    Nat.mod_self, if_true, one, readAuHeaders, word, Option.map_some, Option.bind_some, splitAccessUnits,
    Nat.mul_div_cancel_left _ (show 0 < 8 by decide), Nat.mul_mod_right, window_length,
    Nat.lt_irrefl, if_false]
  rw [List.drop_of_length_le (Nat.le_of_eq (window_length _ _ _)),
    List.take_of_length_le (Nat.le_of_eq (window_length _ _ _))]
  rfl

/-- A short read fits the variable that takes its size. -/
theorem readSize_small {cells : List UInt8} (small : cells.length < 2147483648) :
    readSize cells = cells.length := by
  apply Int.bmod_eq_of_le
  · omega
  · omega

/-- The conversion to an unsigned size keeps a small number. -/
theorem ofInt_toNat {size : Nat} (small : size < 4294967296) :
    (UInt32.ofInt (size : Int)).toNat = size := by
  rw [UInt32.ofInt, Int.emod_eq_of_lt (Int.natCast_nonneg size) (by exact_mod_cast small),
    Int.toNat_natCast, UInt32.toNat_ofNat', Nat.mod_eq_of_lt small]

theorem check_length (frame : AdtsFrame) :
    frame.check.length = if frame.crc.isNone then 0 else 2 := by
  rw [AdtsFrame.check]
  cases frame.crc <;> rfl

theorem check_small (frame : AdtsFrame) : frame.check.length ≤ 2 := by
  rw [check_length]
  split_ifs <;> omega

/-- The length field counts the header and what follows it. -/
theorem body_length (frame : AdtsFrame) :
    frame.fields.aacFrameLength.toNat = 7 + (frame.check ++ frame.raw).length := by
  rw [frame.length, List.length_append, check_length, Nat.add_assoc]

/-- The size field of the AU header holds every raw frame. -/
theorem raw_small (frame : AdtsFrame) : frame.raw.length ≤ 8184 := by
  have bound := frame.fields.aacFrameLength.isLt
  have length := frame.length
  omega

/-- A memory holds a list from an address on when the list was laid over it there. -/
theorem window_overlay_append (memory : Memory UInt8) (start : Nat) (front back : List UInt8) :
    window ((overlay memory start (front ++ back)).advance (start + front.length)) 0 back.length =
      back := by
  apply List.ext_getElem?
  intro index
  rw [window_getElem?]
  by_cases inside : index < back.length
  · have place : index + front.length < (front ++ back).length := by
      rw [List.length_append]
      omega
    have cell := overlay_inside memory start (front ++ back) (index + front.length) place
    rw [if_pos inside, advance_apply, Nat.zero_add,
      show start + front.length + index = start + (index + front.length) by omega, cell,
      List.getElem_append_right (by omega), List.getElem?_eq_getElem inside]
    simp
  · rw [if_neg inside, List.getElem?_eq_none (Nat.le_of_not_gt inside)]

namespace AudioState

variable {state : AudioState} {frame : AdtsFrame} {rest : List UInt8}

/-- The size passed on is what the read returned, less the checksum. -/
theorem frameSize_toNat (small : state.body.length < 2147483648)
    (covered : state.skipped ≤ state.body.length) :
    state.frameSize.toNat = state.body.length - state.skipped := by
  have sized : readSize state.body - state.skipped =
      ((state.body.length - state.skipped : Nat) : Int) := by
    rw [readSize_small small]
    omega
  rw [frameSize, sized, ofInt_toNat (by omega)]

theorem head_frame (ahead : state.fp.unread = frame.fields.bytes ++ rest) :
    state.head = frame.fields.bytes := by
  rw [head, FileStream.fread_cells, ahead]
  exact List.take_left' frame.fields.bytes_length

/-- A whole header gives its check sum and its length to the turn. -/
theorem parsed_frame (ahead : state.fp.unread = frame.fields.bytes ++ rest) :
    state.parsed.1 = 0 ∧ state.skipped = frame.check.length ∧
      state.count.toNat = (frame.check ++ frame.raw).length := by
  have stands (index : Nat) (inside : index < frame.fields.bytes.length) :
      state.headed.advance state.frame index = frame.fields.bytes[index] := by
    rw [headed, head_frame ahead]
    exact overlay_inside state.buffer state.frame _ index inside
  obtain ⟨accepted, flag, size⟩ := parseAdtsHeader_layout frame.fields frame.sync _ stands
  refine ⟨accepted, ?_, ?_⟩
  · have zero : state.parsed.2.protectionAbsent = 0 ↔ ¬frame.crc.isNone = true := by
      rw [← UInt8.toNat_inj, parsed, flag, frame.absent]
      cases frame.crc <;> simp
    rw [skipped, check_length]
    simp only [zero, ite_not]
  · have seven : (7 : UInt32).toNat = 7 := rfl
    have above : 7 ≤ state.parsed.2.aacFrameLength := by
      rw [UInt32.le_iff_toNat_le, parsed, size, body_length, seven]
      exact Nat.le_add_right 7 _
    rw [count, UInt32.toNat_sub_of_le _ _ above, parsed, size, body_length, seven,
      Nat.add_sub_cancel_left]

/-- The second read of the turn delivers what the file has of the frame. -/
theorem body_frame (ahead : state.fp.unread = frame.fields.bytes ++ rest) :
    state.body = rest.take (frame.check ++ frame.raw).length := by
  have behind : (state.fp.fread 7).2.unread = rest := by
    rw [FileStream.fread_unread, ahead]
    exact List.drop_left' frame.fields.bytes_length
  rw [body, FileStream.fread_cells, behind, (parsed_frame ahead).2.2]

/-- A turn that goes on leaves the file behind what it has of the frame. -/
theorem next_unread (send : Sender → Memory UInt8 → UInt32 → Int × Sender)
    (ahead : state.fp.unread = frame.fields.bytes ++ rest) :
    (state.next send).fp.unread = rest.drop (frame.check ++ frame.raw).length := by
  have behind : (state.fp.fread 7).2.unread = rest := by
    rw [FileStream.fread_unread, ahead]
    exact List.drop_left' frame.fields.bytes_length
  rw [next, FileStream.fread_unread, behind, (parsed_frame ahead).2.2]

/-- A turn in front of a whole header goes on exactly when some of the frame follows it. -/
theorem audioTurn_header (send : Sender → Memory UInt8 → UInt32 → Int × Sender)
    (ahead : state.fp.unread = frame.fields.bytes ++ rest) :
    audioTurn send state = if rest = [] then .inl state.stopped else .inr (state.next send) := by
  have headSize : ¬readSize state.head ≤ 0 := by
    rw [head_frame ahead, readSize_small (by rw [AdtsFields.bytes_length]; decide),
      AdtsFields.bytes_length]
    decide
  have accepted : ¬state.parsed.1 = -1 := by
    rw [(parsed_frame ahead).1]
    decide
  have small := raw_small frame
  have nonempty := frame.nonempty
  have bounded := check_small frame
  have size : readSize state.body = (state.body.length : Int) := by
    apply readSize_small
    rw [body_frame ahead, List.length_take, List.length_append]
    omega
  rw [audioTurn, if_neg headSize, if_neg accepted, size, body_frame ahead, List.length_take,
    List.length_append]
  cases rest with
  | nil => rw [if_pos (by simp), if_pos rfl]
  | cons byte rest =>
      rw [if_neg (by rw [List.length_cons]; omega), if_neg (List.cons_ne_nil byte rest)]

/-- The turn hands over what the second read delivers behind the checksum. -/
theorem raw_frame {part : List UInt8} (ahead : state.fp.unread = frame.fields.bytes ++ rest)
    (delivers : rest.take (frame.check ++ frame.raw).length = frame.check ++ part) :
    state.frameSize.toNat = part.length ∧ window state.raw 0 part.length = part := by
  have small := raw_small frame
  have bounded := check_small frame
  have body : state.body = frame.check ++ part := (body_frame ahead).trans delivers
  have inside := congrArg List.length delivers
  rw [List.length_take, List.length_append, List.length_append] at inside
  obtain ⟨_, skip, _⟩ := parsed_frame ahead
  constructor
  · rw [frameSize_toNat (by rw [body, List.length_append]; omega)
      (by rw [body, skip, List.length_append]; omega), body, skip, List.length_append,
      Nat.add_sub_cancel_left]
  · rw [raw, body, skip]
    exact window_overlay_append _ _ _ _

end AudioState

variable (send : Sender → Memory UInt8 → UInt32 → Int × Sender) {state : AudioState}

/-- The loop stops when nothing of a frame follows the header, whatever the buffer held. -/
theorem audioTurn_short (short : state.fp.unread.length ≤ 7) :
    audioTurn send state = .inl state.stopped := by
  have nothing : state.body = [] := by
    rw [AudioState.body, FileStream.fread_cells, FileStream.fread_unread,
      List.drop_of_length_le short, List.take_nil]
  rw [audioTurn, nothing, if_pos (show readSize [] ≤ 0 by decide)]
  split_ifs <;> rfl

theorem audioTurn_end (ended : state.fp.unread = []) :
    audioTurn send state = .inl state.stopped :=
  audioTurn_short send (by rw [ended]; exact Nat.zero_le 7)

/-- One turn hands the raw frame over and leaves the file behind it. -/
theorem audioTurn_frame {frame : AdtsFrame} {rest : List UInt8}
    (ahead : state.fp.unread = frame.encode ++ rest) :
    audioTurn send state = .inr (state.next send) ∧ (state.next send).fp.unread = rest ∧
      state.skipped = frame.check.length ∧ state.frameSize.toNat = frame.raw.length ∧
      window state.raw 0 frame.raw.length = frame.raw := by
  have header : state.fp.unread = frame.fields.bytes ++ ((frame.check ++ frame.raw) ++ rest) := by
    rw [ahead, AdtsFrame.encode, List.append_assoc]
  have present : (frame.check ++ frame.raw) ++ rest ≠ [] := by
    have nonempty := frame.nonempty
    intro empty
    have length := congrArg List.length empty
    simp only [List.length_append, List.length_nil] at length
    omega
  obtain ⟨size, held⟩ := AudioState.raw_frame header List.take_left
  refine ⟨?_, ?_, (AudioState.parsed_frame header).2.1, size, held⟩
  · rw [AudioState.audioTurn_header send header, if_neg present]
  · rw [AudioState.next_unread send header, List.drop_left]

/-- The whole file leaves as one small packet for each frame. -/
theorem audioLoop_run (frames : List AdtsFrame) (extra : Nat) (state : AudioState)
    (reliable : state.sender.socket.Reliable) (ahead : state.fp.unread = encodeAudio frames) :
    ∃ run packets, loop (audioTurn rtpSendAACFrameTcp) (frames.length + extra + 1) state =
        some run ∧ run.ret = 0 ∧ Logs (tcpFrame 0x02) state.sender run.sender packets ∧
      packets.map (fun packet => accessUnits (packet.drop RTP_HEADER_SIZE)) =
        frames.map fun frame => some [(0, frame.raw)] := by
  induction frames generalizing state with
  | nil =>
      exact ⟨_, [], loop_inl (audioTurn_end _ ahead), rfl,
        ⟨rfl, (List.append_nil _).symm, by simp⟩, rfl⟩
  | cons frame frames ih =>
      obtain ⟨turn, left, _, size, held⟩ :=
        audioTurn_frame rtpSendAACFrameTcp ahead
      have small := raw_small frame
      obtain ⟨middle, sends, result⟩ := rtpSendAACFrameWith_sends (tcpFrame 0x02) reliable
        state.raw state.frameSize (by omega)
      have one : Logs (tcpFrame 0x02) state.sender (state.next rtpSendAACFrameTcp).sender
          (wirePackets state.sender.rtpPacket.rtpHeader [aacPayload state.raw state.frameSize]) := by
        have logged := sends.logs (aacPayload_small state.raw state.frameSize (by omega))
        rw [show (state.next rtpSendAACFrameTcp).sender = _ from congrArg Prod.snd result]
        exact ⟨logged.results, logged.sent, logged.small⟩
      obtain ⟨run, packets, ran, ret, rest, units⟩ := ih (state.next rtpSendAACFrameTcp)
        (by
          intro index buffer
          rw [one.results]
          exact reliable index buffer) left
      refine ⟨run, _, ?_, ret, one.trans rest, ?_⟩
      · rw [List.length_cons, show frames.length + 1 + extra + 1 = frames.length + extra + 1 + 1 by
          omega, loop_inr turn, ran]
      · rw [List.map_append, units]
        change accessUnits ((wirePacket _ (aacPayload _ _)).drop RTP_HEADER_SIZE) :: _ = _
        rw [wirePacket_drop, accessUnits_aacPayload state.raw state.frameSize (by omega), size,
          held]
        rfl

/-- Each frame takes at least one byte of the file. -/
theorem frames_length (frames : List AdtsFrame) : frames.length ≤ (encodeAudio frames).length := by
  induction frames with
  | nil => exact Nat.le_refl 0
  | cons frame frames ih =>
      have header := frame.fields.bytes_length
      simp only [encodeAudio, List.flatMap_cons, List.length_append, List.length_cons,
        AdtsFrame.encode] at ih ⊢
      omega

/-- The audio thread logs one small packet for each frame of a well-formed file. -/
theorem sendAacOverTcp_logs (frames : List AdtsFrame) (heap : Memory UInt8)
    (packetHeap : RtpPacket) (socket : Socket) (reliable : socket.Reliable) :
    ∃ run packets, sendAacOverTcp (some (encodeAudio frames)) heap packetHeap socket = some run ∧
      run.ret = 0 ∧ Logs (tcpFrame 0x02) ⟨socket, packetHeap⟩ run.sender packets ∧
      packets.map (fun packet => accessUnits (packet.drop RTP_HEADER_SIZE)) =
        frames.map fun frame => some [(0, frame.raw)] := by
  obtain ⟨extra, fuel⟩ := Nat.le.dest (frames_length frames)
  obtain ⟨run, packets, ran, ret, logs, units⟩ := audioLoop_run frames extra
    (audioStart (encodeAudio frames) heap packetHeap socket) reliable rfl
  refine ⟨run, packets, ?_, ret, ⟨logs.results, logs.sent, logs.small⟩, units⟩
  rw [sendAacOverTcp, sendAacOver_eq_loop, ← fuel]
  exact ran

/-- The audio thread sends one access unit for each raw frame of a well-formed file. -/
theorem sendAacOverTcp_lossless (frames : List AdtsFrame) (heap : Memory UInt8)
    (packetHeap : RtpPacket) (socket : Socket) (reliable : socket.Reliable) :
    ∃ run, sendAacOverTcp (some (encodeAudio frames)) heap packetHeap socket = some run ∧
      run.ret = 0 ∧
      (buffersSent ⟨socket, packetHeap⟩ run.sender).map
          (fun buffer => accessUnits (buffer.drop (4 + RTP_HEADER_SIZE))) =
        frames.map fun frame => some [(0, frame.raw)] := by
  obtain ⟨run, packets, ran, ret, logs, units⟩ :=
    sendAacOverTcp_logs frames heap packetHeap socket reliable
  refine ⟨run, ran, ret, ?_⟩
  rw [logs.buffersSent, List.map_map, ← units]
  apply List.map_congr_left
  intro packet _
  rw [Function.comp_apply, ← List.drop_drop, tcpFrame_drop]

/-- All header bits but the sync word, the CRC flag, and the length are zero. -/
def plainFields (protectionAbsent : BitVec 1) (aacFrameLength : BitVec 13) : AdtsFields where
  syncword := 0xFFF
  id := 0
  layer := 0
  protectionAbsent
  profile := 0
  samplingFreqIndex := 0
  privateBit := 0
  channelCfg := 0
  originalCopy := 0
  home := 0
  copyrightIdentificationBit := 0
  copyrightIdentificationStart := 0
  aacFrameLength
  adtsBufferFullness := 0
  numberOfRawDataBlockInFrame := 0

/-- The first frame has a CRC and the second has none. -/
def mixedFrames : List AdtsFrame :=
  [{ fields := plainFields 0 11, crc := some (1, 2), raw := [3, 4], sync := rfl, absent := rfl,
     nonempty := by decide, length := rfl },
   { fields := plainFields 1 8, crc := none, raw := [5], sync := rfl, absent := rfl,
     nonempty := by decide, length := rfl }]

theorem sendAacOverTcp_lossless_mixed :
    ∃ run, sendAacOverTcp (some (encodeAudio mixedFrames)) (fun _ => 0) wholeSender.rtpPacket
        wholeSender.socket = some run ∧ run.ret = 0 ∧
      (buffersSent wholeSender run.sender).map
          (fun buffer => accessUnits (buffer.drop (4 + RTP_HEADER_SIZE))) =
        [some [(0, [3, 4])], some [(0, [5])]] :=
  sendAacOverTcp_lossless mixedFrames (fun _ => 0) wholeSender.rtpPacket wholeSender.socket
    wholeSender_delivers.reliable

/-- This frame has two bytes of data and no checksum. -/
def shortFrame : AdtsFrame where
  fields := plainFields 1 9
  crc := none
  raw := [5, 6]
  sync := rfl
  absent := rfl
  nonempty := by decide
  length := rfl

end FzServer.Streaming
