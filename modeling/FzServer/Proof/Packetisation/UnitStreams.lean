import FzServer.Proof.Packetisation.Demultiplex
import FzServer.Proof.Packetisation.SendStream

/-
This file rebuilds a whole sequence of NAL units from the packets of the video track.
-/

namespace FzServer.Packetisation

open Foundation Rtp H264

/-- The payload format carries a unit of these types in single packets and in fragments. -/
def Carried (bytes : List UInt8) : Prop :=
  ∃ header body, bytes = header :: body ∧ header &&& 0x80 = 0 ∧
    1 ≤ header &&& 0x1F ∧ header &&& 0x1F ≤ 23

/-- A fragmented unit comes with one byte of the start code behind it. -/
def received (bytes : List UInt8) : List UInt8 :=
  if bytes.length ≤ RTP_MAX_PKT_SIZE then bytes else bytes ++ [0]

theorem depacketiseFrom_single {opened : Option (List UInt8)} {indicator : UInt8}
    (single : indicator &&& 0x1F ≠ 28) (body : List UInt8) (payloads : List (List UInt8)) :
    depacketiseFrom opened ((indicator :: body) :: payloads) =
      if 1 ≤ indicator &&& 0x1F ∧ indicator &&& 0x1F ≤ 23 ∧ opened = none then
        (depacketiseFrom none payloads).map ((indicator :: body) :: ·)
      else none := by
  cases body <;> simp only [depacketiseFrom, if_neg single]

/-- A receiver that has finished its units starts again. -/
theorem depacketiseFrom_append {opened : Option (List UInt8)}
    {first second units : List (List UInt8)}
    (finished : depacketiseFrom opened first = some units) :
    depacketiseFrom opened (first ++ second) = (depacketise second).map (units ++ ·) := by
  induction first generalizing opened units with
  | nil =>
      cases opened with
      | none =>
          obtain rfl := Option.some.inj finished
          simp [depacketise]
      | some unit => cases finished
  | cons payload payloads ih =>
      cases payload with
      | nil => simp [depacketiseFrom] at finished
      | cons indicator body =>
          rw [List.cons_append]
          by_cases fragment : indicator &&& 0x1F = 28
          · cases body with
            | nil => simp [depacketiseFrom, fragment] at finished
            | cons header bytes =>
                simp only [depacketiseFrom, if_pos fragment] at finished ⊢
                cases joined : joinFragment opened indicator header bytes with
                | none =>
                    rw [joined] at finished
                    cases finished
                | some unit =>
                    rw [joined] at finished
                    dsimp only at finished ⊢
                    by_cases open_ : header &&& 0x40 = 0
                    · rw [if_pos open_] at finished ⊢
                      exact ih finished
                    · rw [if_neg open_] at finished ⊢
                      obtain ⟨later, done, rfl⟩ := Option.map_eq_some_iff.mp finished
                      rw [ih done, Option.map_map]
                      rfl
          · rw [depacketiseFrom_single fragment] at finished ⊢
            by_cases single : 1 ≤ indicator &&& 0x1F ∧ indicator &&& 0x1F ≤ 23 ∧ opened = none
            · rw [if_pos single] at finished ⊢
              obtain ⟨later, done, rfl⟩ := Option.map_eq_some_iff.mp finished
              rw [ih done, Option.map_map]
              rfl
            · rw [if_neg single] at finished
              cases finished

/-- The receiver gets a unit with at most one zero byte more. -/
theorem depacketise_received (unit : Memory UInt8 × Nat)
    (carried : Carried (window unit.1 0 unit.2)) (behind : unit.1 unit.2 = 0) :
    depacketise (nalPayloads unit.1 unit.2) = some [received (window unit.1 0 unit.2)] := by
  obtain ⟨header, body, bytes, forbidden, kind⟩ := carried
  have nonempty : 1 ≤ unit.2 := by
    have length := congrArg List.length bytes
    rw [window_length, List.length_cons] at length
    omega
  have first : unit.1 0 = header := by
    have cell := congrArg (fun cells => cells[0]?) bytes
    rw [window_getElem?, if_pos (show 0 < unit.2 from nonempty)] at cell
    exact Option.some.inj cell
  rw [received, window_length]
  by_cases short : unit.2 ≤ RTP_MAX_PKT_SIZE
  · rw [if_pos short, nalPayloads, if_pos short]
    exact depacketise_single unit.1 (first ▸ kind) unit.2 nonempty
  · have longer : window unit.1 0 (unit.2 + 1) = unit.1 0 :: window unit.1 1 unit.2 :=
      window_succ unit.1 0 unit.2
    rw [if_neg short, depacketise_fragments unit.1 (first ▸ forbidden) unit.2 (Nat.not_le.mp short),
      ← longer, window_append]
    simp [window, behind]

theorem depacketise_units (units : List (Memory UInt8 × Nat))
    (carried : ∀ unit ∈ units, Carried (window unit.1 0 unit.2))
    (behind : ∀ unit ∈ units, unit.1 unit.2 = 0) :
    depacketise (units.flatMap fun unit => nalPayloads unit.1 unit.2) =
      some (units.map fun unit => received (window unit.1 0 unit.2)) := by
  induction units with
  | nil => rfl
  | cons unit units ih =>
      obtain ⟨firstCarried, laterCarried⟩ := List.forall_mem_cons.mp carried
      obtain ⟨firstBehind, laterBehind⟩ := List.forall_mem_cons.mp behind
      have one := depacketise_received unit firstCarried firstBehind
      rw [List.flatMap_cons, depacketise, depacketiseFrom_append one, ih laterCarried laterBehind]
      rfl

/-- The packets of the units carry the payloads of one unit after another. -/
theorem unitPackets_payloads (header : RtpHeader) (units : List (Memory UInt8 × Nat)) :
    (unitPackets header units).map (List.drop RTP_HEADER_SIZE) =
      units.flatMap fun unit => nalPayloads unit.1 unit.2 := by
  induction units generalizing header with
  | nil => rfl
  | cons unit units ih =>
      rw [unitPackets, List.map_append, ih, wirePackets_payloads, List.flatMap_cons]

/-- Every packet of the video track fits the length field of its frame. -/
theorem unitPackets_small (header : RtpHeader) (units : List (Memory UInt8 × Nat)) :
    ∀ packet ∈ unitPackets header units, packet.length < 65536 := by
  induction units generalizing header with
  | nil => simp [unitPackets]
  | cons unit units ih =>
      intro packet member
      rcases List.mem_append.mp member with now | later
      · exact wirePackets_small _ _ (nalPayloads_small unit.1 unit.2) packet now
      · exact ih _ packet later

/-- Every packet of the audio track fits the length field when its payload is small. -/
theorem framePackets_small {payloads : List (List UInt8)}
    (small : ∀ payload ∈ payloads, payload.length ≤ 8188) (header : RtpHeader) :
    ∀ packet ∈ framePackets header payloads, packet.length < 65536 := by
  induction payloads generalizing header with
  | nil => simp [framePackets]
  | cons payload payloads ih =>
      obtain ⟨first, later⟩ := List.forall_mem_cons.mp small
      intro packet member
      rcases List.mem_cons.mp member with rfl | member
      · rw [wirePacket_length, RTP_HEADER_SIZE]
        omega
      · exact ih later _ packet member

end FzServer.Packetisation
