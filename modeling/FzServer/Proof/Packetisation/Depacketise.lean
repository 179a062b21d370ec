import FzServer.Proof.Packetisation.SendTrace

/-
This file rebuilds NAL units from RTP payloads as the H.264 payload format prescribes.
It compares the result with the NAL unit that the server packetised.
-/

namespace FzServer.Packetisation

open Foundation Rtp H264

/-- A fragment opens a unit with its start bit and extends the open unit otherwise. -/
def joinFragment (opened : Option (List UInt8)) (indicator header : UInt8)
    (fragment : List UInt8) : Option (List UInt8) :=
  match opened with
  | none =>
      if header &&& 0x80 = 0 then none
      else some ([(indicator &&& 0xE0) ||| (header &&& 0x1F)] ++ fragment)
  | some unit => if header &&& 0x80 = 0 then some (unit ++ fragment) else none

/-- The receiver keeps at most one open unit and refuses every malformed payload. -/
def depacketiseFrom : Option (List UInt8) → List (List UInt8) → Option (List (List UInt8))
  | none, [] => some []
  | some _, [] => none
  | _, [] :: _ => none
  | opened, (indicator :: body) :: payloads =>
      if indicator &&& 0x1F = 28 then
        match body with
        | [] => none
        | header :: fragment =>
            match joinFragment opened indicator header fragment with
            | none => none
            | some unit =>
                if header &&& 0x40 = 0 then depacketiseFrom (some unit) payloads
                else (depacketiseFrom none payloads).map (unit :: ·)
      else if 1 ≤ indicator &&& 0x1F ∧ indicator &&& 0x1F ≤ 23 ∧ opened = none then
        (depacketiseFrom none payloads).map ((indicator :: body) :: ·)
      else none

def depacketise : List (List UInt8) → Option (List (List UInt8)) := depacketiseFrom none

theorem fuIndicator_kind (naluType : UInt8) : fuIndicator naluType &&& 0x1F = 28 :=
  byte_forall (fun byte => fuIndicator byte &&& 0x1F = 28) (by decide +kernel) naluType

theorem header_rebuilt (naluType : UInt8) (forbidden : naluType &&& 0x80 = 0) :
    (fuIndicator naluType &&& 0xE0) ||| (((naluType &&& 0x1F) ||| 0x80) &&& 0x1F) = naluType := by
  revert forbidden
  exact byte_forall (fun byte => byte &&& 0x80 = 0 →
    (fuIndicator byte &&& 0xE0) ||| (((byte &&& 0x1F) ||| 0x80) &&& 0x1F) = byte)
    (by decide +kernel) naluType

theorem startHeader_bits (naluType : UInt8) :
    ((naluType &&& 0x1F) ||| 0x80) &&& 0x80 ≠ 0 ∧ ((naluType &&& 0x1F) ||| 0x80) &&& 0x40 = 0 :=
  byte_forall (fun byte => ((byte &&& 0x1F) ||| 0x80) &&& 0x80 ≠ 0 ∧
    ((byte &&& 0x1F) ||| 0x80) &&& 0x40 = 0) (by decide +kernel) naluType

theorem middleHeader_bits (naluType : UInt8) :
    (naluType &&& 0x1F) &&& 0x80 = 0 ∧ (naluType &&& 0x1F) &&& 0x40 = 0 :=
  byte_forall (fun byte => (byte &&& 0x1F) &&& 0x80 = 0 ∧
    (byte &&& 0x1F) &&& 0x40 = 0) (by decide +kernel) naluType

theorem endHeader_bits (naluType : UInt8) :
    ((naluType &&& 0x1F) ||| 0x40) &&& 0x80 = 0 ∧ ((naluType &&& 0x1F) ||| 0x40) &&& 0x40 ≠ 0 :=
  byte_forall (fun byte => ((byte &&& 0x1F) ||| 0x40) &&& 0x80 = 0 ∧
    ((byte &&& 0x1F) ||| 0x40) &&& 0x40 ≠ 0) (by decide +kernel) naluType

section Fragments

variable (rec : Memory UInt8)

theorem splitPayloads_succ (split_size remain_size i count : Nat) :
    splitPayloads rec split_size remain_size i (count + 1) =
      fuPayload rec (fuHeader (rec 0) split_size remain_size i) (1 + RTP_MAX_PKT_SIZE * i)
          RTP_MAX_PKT_SIZE ::
        splitPayloads rec split_size remain_size (i + 1) count := by
  rw [splitPayloads, List.range'_succ, List.map_cons]
  rfl

theorem splitPayloads_concat (split_size remain_size i count : Nat) :
    splitPayloads rec split_size remain_size i (count + 1) =
      splitPayloads rec split_size remain_size i count ++
        [fuPayload rec (fuHeader (rec 0) split_size remain_size (i + count))
          (1 + RTP_MAX_PKT_SIZE * (i + count)) RTP_MAX_PKT_SIZE] := by
  rw [splitPayloads, List.range'_concat, List.map_append, Nat.one_mul]
  rfl

/-- The first fragment opens a unit that starts with the NAL header byte. -/
theorem depacketise_start (forbidden : rec 0 &&& 0x80 = 0) (pos length : Nat)
    (payloads : List (List UInt8)) :
    depacketiseFrom none (fuPayload rec ((rec 0 &&& 0x1F) ||| 0x80) pos length :: payloads) =
      depacketiseFrom (some (rec 0 :: window rec pos length)) payloads := by
  obtain ⟨starts, continues⟩ := startHeader_bits (rec 0)
  simp [depacketiseFrom, fuPayload, fuIndicator_kind, joinFragment, starts, continues,
    header_rebuilt (rec 0) forbidden]

/-- A middle fragment extends the open unit. -/
theorem depacketise_middle (unit : List UInt8) (pos length : Nat)
    (payloads : List (List UInt8)) :
    depacketiseFrom (some unit) (fuPayload rec (rec 0 &&& 0x1F) pos length :: payloads) =
      depacketiseFrom (some (unit ++ window rec pos length)) payloads := by
  obtain ⟨joins, continues⟩ := middleHeader_bits (rec 0)
  simp [depacketiseFrom, fuPayload, fuIndicator_kind, joinFragment, joins, continues]

/-- The end bit closes the open unit. -/
theorem depacketise_end (unit : List UInt8) (pos length : Nat) :
    depacketiseFrom (some unit) [fuPayload rec ((rec 0 &&& 0x1F) ||| 0x40) pos length] =
      some [unit ++ window rec pos length] := by
  obtain ⟨joins, ends⟩ := endHeader_bits (rec 0)
  simp [depacketiseFrom, fuPayload, fuIndicator_kind, joinFragment, joins, ends]

/-- The fragments between the first and the last one extend the open unit in order. -/
theorem depacketise_split (split_size remain_size : Nat) (count i : Nat) (unit : List UInt8)
    (payloads : List (List UInt8)) (positive : 0 < i)
    (before : remain_size = 0 → i + count < split_size) :
    depacketiseFrom (some unit)
        (splitPayloads rec split_size remain_size i count ++ payloads) =
      depacketiseFrom (some (unit ++ window rec (1 + RTP_MAX_PKT_SIZE * i)
        (RTP_MAX_PKT_SIZE * count))) payloads := by
  induction count generalizing i unit with
  | zero => simp [splitPayloads]
  | succ count ih =>
      have middle : fuHeader (rec 0) split_size remain_size i = rec 0 &&& 0x1F := by
        rw [fuHeader, if_neg (by omega), if_neg]
        rintro ⟨exact, last⟩
        have := before exact
        omega
      have rest := ih (i + 1) (unit ++ window rec (1 + RTP_MAX_PKT_SIZE * i) RTP_MAX_PKT_SIZE)
        (by omega) (fun exact => by have := before exact; omega)
      rw [splitPayloads_succ, middle, List.cons_append, depacketise_middle, rest, List.append_assoc,
        Nat.mul_succ _ count, Nat.add_comm (RTP_MAX_PKT_SIZE * count), window_append, Nat.mul_succ,
        Nat.add_assoc]

/-- The fragments of a long unit rebuild its header and the same number of bytes behind it. -/
theorem depacketise_fragments (forbidden : rec 0 &&& 0x80 = 0) (filesize : Nat)
    (long : RTP_MAX_PKT_SIZE < filesize) :
    depacketise (nalPayloads rec filesize) = some [rec 0 :: window rec 1 filesize] := by
  have whole := Nat.div_add_mod filesize RTP_MAX_PKT_SIZE
  have packet : 0 < RTP_MAX_PKT_SIZE := by decide
  have below := Nat.mod_lt filesize packet
  generalize splitEq : filesize / RTP_MAX_PKT_SIZE = split_size at whole
  generalize remainEq : filesize % RTP_MAX_PKT_SIZE = remain_size at whole below
  obtain ⟨rest, rfl⟩ : ∃ rest, split_size = rest + 1 := by
    have positive : 0 < split_size := by
      rw [← splitEq]
      exact Nat.div_pos (Nat.le_of_lt long) packet
    exact ⟨split_size - 1, by omega⟩
  have first : fuHeader (rec 0) (rest + 1) remain_size 0 = (rec 0 &&& 0x1F) ||| 0x80 := if_pos rfl
  have joined : window rec 1 filesize = window rec 1 RTP_MAX_PKT_SIZE ++
      window rec (1 + RTP_MAX_PKT_SIZE * 1) (RTP_MAX_PKT_SIZE * rest) ++
        window rec (1 + RTP_MAX_PKT_SIZE * (rest + 1)) remain_size := by
    rw [← whole, window_append, Nat.mul_succ, Nat.add_comm (RTP_MAX_PKT_SIZE * rest),
      window_append, Nat.mul_one]
  rw [depacketise, nalPayloads, if_neg (by omega)]
  simp only [splitEq, remainEq]
  rw [splitPayloads_succ, first, List.cons_append, depacketise_start rec forbidden, Nat.mul_zero,
    Nat.add_zero, remainPayloads, joined]
  by_cases left : remain_size > 0
  · -- The remainder carries the end bit, so every full fragment stays open.
    rw [depacketise_split rec _ _ _ 1 _ _ (by decide) (fun exact => by omega), if_pos left,
      depacketise_end, List.cons_append, List.cons_append]
  · -- The last full fragment carries the end bit.
    obtain ⟨middle, rfl⟩ : ∃ middle, rest = middle + 1 := ⟨rest - 1, by
      have : rest ≠ 0 := by
        rintro rfl
        omega
      omega⟩
    have exact : remain_size = 0 := by omega
    have header : fuHeader (rec 0) (middle + 1 + 1) remain_size (1 + middle) =
        (rec 0 &&& 0x1F) ||| 0x40 := by
      rw [fuHeader, if_neg (by omega), if_pos ⟨exact, by omega⟩]
    rw [if_neg left, List.append_nil, splitPayloads_concat, header,
      depacketise_split rec _ _ _ 1 _ _ (by decide) (fun _ => by omega), depacketise_end, exact,
      window_zero, List.append_nil, Nat.mul_succ _ middle, window_append, Nat.mul_add,
      Nat.mul_one, List.append_assoc, Nat.add_assoc 1, List.cons_append]

/-- A unit in one packet is taken as it is. -/
theorem depacketise_single (kind : 1 ≤ rec 0 &&& 0x1F ∧ rec 0 &&& 0x1F ≤ 23) (filesize : Nat)
    (nonempty : 1 ≤ filesize) :
    depacketise [window rec 0 filesize] = some [window rec 0 filesize] := by
  obtain ⟨length, rfl⟩ : ∃ length, filesize = length + 1 := ⟨filesize - 1, by omega⟩
  have single : rec 0 &&& 0x1F ≠ 28 := by
    intro fragment
    rw [fragment] at kind
    exact absurd kind.2 (by decide)
  simp [window_succ, depacketise, depacketiseFrom, single, kind]

/-- The receiver gets the unit back exactly when one packet carries it. -/
theorem depacketise_nalPayloads (forbidden : rec 0 &&& 0x80 = 0)
    (kind : 1 ≤ rec 0 &&& 0x1F ∧ rec 0 &&& 0x1F ≤ 23) (filesize : Nat) (nonempty : 1 ≤ filesize) :
    depacketise (nalPayloads rec filesize) = some [window rec 0 filesize] ↔
      filesize ≤ RTP_MAX_PKT_SIZE := by
  constructor
  · intro same
    by_contra long
    rw [depacketise_fragments rec forbidden filesize (Nat.not_le.mp long)] at same
    have lengths := congrArg (Option.map (List.map List.length)) same
    simp at lengths
  · intro short
    rw [nalPayloads, if_pos short]
    exact depacketise_single rec kind filesize nonempty

end Fragments

/-- The receiver strips the framing and the RTP header from each buffer of one call. -/
def rtpPayloads (prefixSize : Nat) (before after : Sender) : List (List UInt8) :=
  (after.socket.sent.drop before.socket.sent.length).map (List.drop (prefixSize + RTP_HEADER_SIZE))

theorem rtpPayloads_sends {prefixSize : Nat} {frame : List UInt8 → List UInt8}
    {payloads : List (List UInt8)} {before after : Sender}
    (sends : Sends frame payloads before after)
    (strip : ∀ packet, (frame packet).drop prefixSize = packet) :
    rtpPayloads prefixSize before after = payloads := by
  have payload (packet : List UInt8) :
      (frame packet).drop (prefixSize + RTP_HEADER_SIZE) = packet.drop RTP_HEADER_SIZE := by
    rw [← List.drop_drop, strip]
  rw [rtpPayloads, sends.sent, List.drop_left, List.map_map]
  simp only [Function.comp_def, payload]
  exact wirePackets_payloads before.rtpPacket.rtpHeader payloads

/-- One call hands exactly the payloads of its unit to a reliable socket. -/
theorem rtpPayloads_sendManagerWith {prefixSize : Nat} {frame : List UInt8 → List UInt8}
    (strip : ∀ packet, (frame packet).drop prefixSize = packet) (sender : Sender)
    (reliable : sender.socket.Reliable) (rec : Memory UInt8) (filesize : Nat) :
    rtpPayloads prefixSize sender (sendManagerWith (transmit frame) sender rec filesize).2 =
      nalPayloads rec filesize := by
  obtain ⟨_, middle, sends, result⟩ := sendManagerWith_sends frame reliable rec filesize
  rw [result]
  change rtpPayloads prefixSize sender middle = nalPayloads rec filesize
  exact rtpPayloads_sends sends strip

theorem rtpPayloads_sendManagerTcp (sender : Sender) (reliable : sender.socket.Reliable)
    (rec : Memory UInt8) (filesize : Nat) :
    rtpPayloads 4 sender (sendManagerTcp sender rec filesize).2 = nalPayloads rec filesize :=
  rtpPayloads_sendManagerWith (tcpFrame_drop 0x00) sender reliable rec filesize

theorem rtpPayloads_sendManager (sender : Sender) (reliable : sender.socket.Reliable)
    (rec : Memory UInt8) (filesize : Nat) :
    rtpPayloads 0 sender (sendManager sender rec filesize).2 = nalPayloads rec filesize :=
  rtpPayloads_sendManagerWith (fun _ => rfl) sender reliable rec filesize

/-- Packetisation loses nothing and adds nothing exactly for the units of one packet. -/
theorem packetisation_lossless_iff (sender : Sender) (reliable : sender.socket.Reliable)
    (rec : Memory UInt8) (filesize : Nat) (nonempty : 1 ≤ filesize)
    (forbidden : rec 0 &&& 0x80 = 0) (kind : 1 ≤ rec 0 &&& 0x1F ∧ rec 0 &&& 0x1F ≤ 23) :
    (depacketise (rtpPayloads 4 sender (sendManagerTcp sender rec filesize).2) =
        some [window rec 0 filesize] ↔ filesize ≤ RTP_MAX_PKT_SIZE) ∧
      (depacketise (rtpPayloads 0 sender (sendManager sender rec filesize).2) =
        some [window rec 0 filesize] ↔ filesize ≤ RTP_MAX_PKT_SIZE) := by
  rw [rtpPayloads_sendManagerTcp sender reliable, rtpPayloads_sendManager sender reliable]
  exact ⟨depacketise_nalPayloads rec forbidden kind filesize nonempty,
    depacketise_nalPayloads rec forbidden kind filesize nonempty⟩

theorem packetisation_lossless_iff_short :
    (depacketise (rtpPayloads 4 wholeSender (sendManagerTcp wholeSender (fun _ => 0x65) 3).2) =
        some [[0x65, 0x65, 0x65]] ↔ 3 ≤ RTP_MAX_PKT_SIZE) ∧
      (depacketise (rtpPayloads 0 wholeSender (sendManager wholeSender (fun _ => 0x65) 3).2) =
        some [[0x65, 0x65, 0x65]] ↔ 3 ≤ RTP_MAX_PKT_SIZE) :=
  packetisation_lossless_iff wholeSender wholeSender_delivers.reliable (fun _ => 0x65) 3 (by decide)
    (by decide) (by decide)

/-- The buffer holds a unit of 1401 bytes and a zero byte behind it. -/
def longUnit : Memory UInt8 := fun address => if address < 1401 then 0x65 else 0x00

/-- A unit of 1401 bytes comes back with one byte that is not its own. -/
theorem packetisation_adds_byte :
    depacketise (rtpPayloads 4 wholeSender (sendManagerTcp wholeSender longUnit 1401).2) ≠
        some [window longUnit 0 1401] ∧
      depacketise (rtpPayloads 0 wholeSender (sendManager wholeSender longUnit 1401).2) ≠
        some [window longUnit 0 1401] := by
  rw [rtpPayloads_sendManagerTcp wholeSender wholeSender_delivers.reliable,
    rtpPayloads_sendManager wholeSender wholeSender_delivers.reliable]
  have exact := depacketise_nalPayloads longUnit (by decide) (by decide) 1401 (by decide)
  exact ⟨fun same => absurd (exact.mp same) (by decide),
    fun same => absurd (exact.mp same) (by decide)⟩

end FzServer.Packetisation
