import FzServer.Proof.Packetisation.SendSteps

/-
This file numbers the packets that the kernel accepted on one track.
-/

namespace FzServer.Packetisation

open Foundation Rtp H264 Aac

/-- These buffers left between two states, and the kernel accepted them. -/
def delivered (before after : Sender) : List (List UInt8) :=
  ((after.socket.sent.zipIdx.drop before.socket.sent.length).filter fun entry =>
    0 ≤ after.socket.results entry.2 entry.1).map Prod.fst

/-- The third and fourth byte of an RTP packet hold its number in network order. -/
def sequenceOf (prefixSize : Nat) (buffer : List UInt8) : Nat :=
  256 * (buffer.getD (prefixSize + 2) 0).toNat + (buffer.getD (prefixSize + 3) 0).toNat

/-- These are consecutive numbers of sixteen bits. -/
def consecutive (start count : Nat) : List Nat :=
  (List.range count).map fun index => (start + index) % 65536

theorem consecutive_append (start first second : Nat) :
    consecutive start (first + second) =
      consecutive start first ++ consecutive ((start + first) % 65536) second := by
  rw [consecutive, List.range_add, List.map_append, List.map_map]
  congr 1
  apply List.map_congr_left
  intro index _
  change (start + (first + index)) % 65536 = ((start + first) % 65536 + index) % 65536
  omega

/-- The second state follows the first, and each accepted packet took the next number. -/
structure Counted (prefixSize : Nat) (before after : Sender) : Prop where
  results : after.socket.results = before.socket.results
  grows : before.socket.sent <+: after.socket.sent
  numbers : (delivered before after).map (sequenceOf prefixSize) =
    consecutive before.rtpPacket.rtpHeader.seq.toNat (delivered before after).length
  counter : after.rtpPacket.rtpHeader.seq.toNat =
    (before.rtpPacket.rtpHeader.seq.toNat + (delivered before after).length) % 65536

/-- The log behind the first state splits at any state between. -/
theorem delivered_append {before middle after : Sender}
    (results : after.socket.results = middle.socket.results)
    (one : before.socket.sent <+: middle.socket.sent)
    (two : middle.socket.sent <+: after.socket.sent) :
    delivered before after = delivered before middle ++ delivered middle after := by
  obtain ⟨more, grown⟩ := two
  have inside : before.socket.sent.length ≤ middle.socket.sent.zipIdx.length := by
    rw [List.length_zipIdx]
    exact one.length_le
  have rest : (middle.socket.sent.zipIdx ++ more.zipIdx (0 + middle.socket.sent.length)).drop
      middle.socket.sent.length = more.zipIdx (0 + middle.socket.sent.length) :=
    List.drop_left' List.length_zipIdx
  rw [delivered, delivered, delivered, ← grown, List.zipIdx_append,
    List.drop_append_of_le_length inside, rest, List.filter_append, List.map_append, results]

/-- Nothing left between a state and one with the same socket. -/
theorem delivered_same {before after : Sender} (same : after.socket = before.socket) :
    delivered before after = [] := by
  rw [delivered, same, List.drop_of_length_le]
  · rfl
  · exact Nat.le_of_eq List.length_zipIdx

/-- A change that keeps the socket and the number counts nothing. -/
theorem Counted.same {prefixSize : Nat} {before after : Sender}
    (socket : after.socket = before.socket)
    (number : after.rtpPacket.rtpHeader.seq = before.rtpPacket.rtpHeader.seq) :
    Counted prefixSize before after where
  results := by rw [socket]
  grows := socket ▸ List.prefix_rfl
  numbers := by
    rw [delivered_same socket]
    rfl
  counter := by
    rw [delivered_same socket, number]
    exact (Nat.mod_eq_of_lt before.rtpPacket.rtpHeader.seq.toNat_lt).symm

theorem Counted.trans {prefixSize : Nat} {before middle after : Sender}
    (one : Counted prefixSize before middle) (two : Counted prefixSize middle after) :
    Counted prefixSize before after := by
  have split := delivered_append two.results one.grows two.grows
  refine ⟨two.results.trans one.results, one.grows.trans two.grows, ?_, ?_⟩
  · rw [split, List.map_append, one.numbers, two.numbers, one.counter, List.length_append,
      consecutive_append]
  · rw [two.counter, one.counter, split, List.length_append]
    omega

/-- The receiver reads the number of the header off the wire. -/
theorem sequenceOf_frame {frame : List UInt8 → List UInt8} {prefixSize : Nat}
    (strip : ∀ packet, (frame packet).drop prefixSize = packet) (header : RtpHeader)
    (payload : List UInt8) :
    sequenceOf prefixSize (frame (wirePacket header payload)) = header.seq.toNat := by
  obtain ⟨low, high⟩ := byteOf_reverse16 header.seq.toBitVec
  have cell (index : Nat) : (frame (wirePacket header payload)).getD (prefixSize + index) 0 =
      (wirePacket header payload).getD index 0 := by
    rw [List.getD_eq_getElem?_getD, List.getD_eq_getElem?_getD, ← List.getElem?_drop, strip]
  rw [sequenceOf, cell, cell]
  change 256 * (byteOf (reverse16 header.seq.toBitVec) 0).toNat +
    (byteOf (reverse16 header.seq.toBitVec) 1).toNat = _
  rw [low, high]
  exact byteOf_toNat header.seq.toBitVec

variable {frame : List UInt8 → List UInt8} {prefixSize : Nat}

/-- One buffer joins the log, and it counts when the kernel accepts it. -/
theorem delivered_send (sender : Sender) (buffer : List UInt8) (rtpPacket : RtpPacket) :
    delivered sender ⟨(sender.socket.send buffer).2, rtpPacket⟩ =
      if 0 ≤ (sender.socket.send buffer).1 then [buffer] else [] := by
  have last : (sender.socket.sent.zipIdx ++ [buffer].zipIdx (0 + sender.socket.sent.length)).drop
      sender.socket.sent.length = [(buffer, sender.socket.sent.length)] := by
    rw [List.drop_left' List.length_zipIdx, Nat.zero_add]
    rfl
  rw [delivered, Socket.send, List.zipIdx_append, last]
  by_cases accepted : 0 ≤ sender.socket.results sender.socket.sent.length buffer
  · simp [accepted]
  · simp [accepted]

/-- A rejected buffer counts nothing. -/
theorem Counted.rejected {sender : Sender} {buffer : List UInt8} {rtpPacket : RtpPacket}
    (failed : (sender.socket.send buffer).1 < 0)
    (number : rtpPacket.rtpHeader.seq = sender.rtpPacket.rtpHeader.seq) :
    Counted prefixSize sender ⟨(sender.socket.send buffer).2, rtpPacket⟩ := by
  have nothing := delivered_send sender buffer rtpPacket
  rw [if_neg (Int.not_le.mpr failed)] at nothing
  refine ⟨rfl, List.prefix_append _ _, ?_, ?_⟩
  · rw [nothing]
    rfl
  · rw [nothing, number]
    exact (Nat.mod_eq_of_lt sender.rtpPacket.rtpHeader.seq.toNat_lt).symm

/-- An accepted buffer takes the number that it carries. -/
theorem Counted.accepted {sender : Sender} {buffer : List UInt8} {rtpPacket : RtpPacket}
    (sent : ¬(sender.socket.send buffer).1 < 0)
    (carries : sequenceOf prefixSize buffer = sender.rtpPacket.rtpHeader.seq.toNat)
    (number : rtpPacket.rtpHeader.seq = sender.rtpPacket.rtpHeader.seq + 1) :
    Counted prefixSize sender ⟨(sender.socket.send buffer).2, rtpPacket⟩ := by
  have one := delivered_send sender buffer rtpPacket
  rw [if_pos (Int.not_lt.mp sent)] at one
  have small := sender.rtpPacket.rtpHeader.seq.toNat_lt
  refine ⟨rfl, List.prefix_append _ _, ?_, ?_⟩
  · rw [one, List.map_singleton, carries]
    simp only [consecutive, List.length_singleton, List.range_one, List.map_singleton, Nat.add_zero]
    rw [Nat.mod_eq_of_lt small]
  · rw [one, number, UInt16.toNat_add]
    rfl

/-- A failed call counts nothing, and a successful call takes one number. -/
theorem counted_steps (strip : ∀ packet, (frame packet).drop prefixSize = packet) :
    SendSteps frame (Counted prefixSize) where
  refl _ := Counted.same rfl rfl
  trans := Counted.trans
  ticks _ _ := Counted.same rfl rfl
  failed sender payload size := by
    rw [transmit_eq]
    exact fun failed => Counted.rejected failed rfl
  sent sender payload size := by
    rw [transmit_eq]
    exact fun sent => Counted.accepted sent (sequenceOf_frame strip _ _) rfl

/-- The accepted packets are numbered without a gap, and the counter stands behind them. -/
def Numbered (prefixSize : Nat) (before after : Sender) : Prop :=
  (delivered before after).map (sequenceOf prefixSize) =
      consecutive before.rtpPacket.rtpHeader.seq.toNat (delivered before after).length ∧
    after.rtpPacket.rtpHeader.seq.toNat =
      (before.rtpPacket.rtpHeader.seq.toNat + (delivered before after).length) % 65536

/-- No pattern of failures makes any sender skip or repeat a sequence number. -/
theorem sequence_numbers (sender : Sender) (units : List (Memory UInt8 × Nat))
    (frames : List (Memory UInt8 × UInt32)) :
    Numbered 4 sender (sendUnitsOver sendManagerTcp sender units) ∧
      Numbered 0 sender (sendUnitsOver sendManager sender units) ∧
      Numbered 4 sender (sendFramesOver rtpSendAACFrameTcp sender frames) ∧
      Numbered 0 sender (sendFramesOver rtpSendAACFrame sender frames) := by
  have tcp (channel : UInt8) : SendSteps (tcpFrame channel) (Counted 4) :=
    counted_steps (tcpFrame_drop channel)
  have udp : SendSteps udpFrame (Counted 0) := counted_steps fun _ => rfl
  have videoTcp : Counted 4 sender (sendUnitsOver sendManagerTcp sender units) :=
    sendUnitsOver_steps (tcp 0x00) (sendManagerWith_steps (tcp 0x00)) sender units
  have videoUdp : Counted 0 sender (sendUnitsOver sendManager sender units) :=
    sendUnitsOver_steps udp (sendManagerWith_steps udp) sender units
  have audioTcp : Counted 4 sender (sendFramesOver rtpSendAACFrameTcp sender frames) :=
    sendFramesOver_steps (tcp 0x02) (rtpSendAACFrameWith_steps (tcp 0x02)) sender frames
  have audioUdp : Counted 0 sender (sendFramesOver rtpSendAACFrame sender frames) :=
    sendFramesOver_steps udp (rtpSendAACFrameWith_steps udp) sender frames
  exact ⟨⟨videoTcp.numbers, videoTcp.counter⟩, ⟨videoUdp.numbers, videoUdp.counter⟩,
    ⟨audioTcp.numbers, audioTcp.counter⟩, ⟨audioUdp.numbers, audioUdp.counter⟩⟩

end FzServer.Packetisation
