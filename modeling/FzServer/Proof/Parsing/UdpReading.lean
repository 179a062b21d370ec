import FzServer.Construction.Rtsp.UdpParser
import FzServer.Foundation.Decimal
import FzServer.Proof.Parsing.Reading

/-
This file compares the parse loop for UDP with the one for TCP and reads its ports.
-/

namespace FzServer.Parsing

open Foundation Sessions Rtsp Utility

section Loop

variable (udp : UdpScanned) (line : List UInt8)

theorem setPorts_scanned : (udp.setPorts line).scanned = udp.scanned := by
  rw [UdpScanned.setPorts]
  cases scanClientPorts line with
  | none => rfl
  | some ports => rfl

/-- The branches of the two loops differ on a Transport line alone. -/
theorem parseUdpLine_scanned :
    (parseUdpLine udp line).scanned = parseLine udp.scanned line := by
  rw [parseUdpLine, parseLine]
  by_cases keyword : hasKeyword line = true
  · rw [if_pos keyword, if_pos keyword]
  · rw [if_neg keyword, if_neg keyword]
    by_cases numbered : strstr line (ascii "CSeq") = true
    · rw [if_pos numbered, if_pos numbered]
    · rw [if_neg numbered, if_neg numbered]
      by_cases transport : ascii "Transport:" <+: line
      · rw [if_pos transport, if_pos transport]
        exact setPorts_scanned udp line
      · rw [if_neg transport, if_neg transport]
        by_cases named : strstr line (ascii "Session") = true
        · rw [if_pos named, if_pos named]
        · rw [if_neg named, if_neg named]

/-- Both parsers read the same request out of the buffer. -/
theorem parseUdpRequest_scanned (received : List UInt8) (surroundings : Surroundings)
    (handler : RtspHandler) :
    (parseUdpRequest received surroundings handler).scanned =
      parseRequest received surroundings handler := by
  have loops (lines : List (List UInt8)) (udp : UdpScanned) :
      (lines.foldl parseUdpLine udp).scanned = lines.foldl parseLine udp.scanned := by
    induction lines generalizing udp with
    | nil => rfl
    | cons line lines ih => rw [List.foldl_cons, List.foldl_cons, ih, parseUdpLine_scanned]
  exact loops _ _

end Loop

/-- A line announces ports when the three other tests let it through. -/
def givesPorts (line : List UInt8) : Bool :=
  hasKeyword line = false ∧ strstr line (ascii "CSeq") = false ∧ ascii "Transport:" <+: line

/-- It gives the port for the media first. -/
def rtpPortOn (line : List UInt8) : Option Int :=
  if givesPorts line then (scanClientPorts line).map Prod.fst else none

def rtcpPortOn (line : List UInt8) : Option Int :=
  if givesPorts line then (scanClientPorts line).bind Prod.snd else none

section Ports

/-- A client asks for its two ports on this line. -/
def portLine (client : Int × Int) : List UInt8 :=
  ascii "Transport: RTP/AVP/UDP;unicast;client_port=" ++
    (decimal client.1 ++ (ascii "-" ++ (decimal client.2 ++ [0x0D])))

/-- A word with a character that the line lacks is not in the line. -/
theorem portLine_lacks (client : Int × Int) {word : List UInt8} (letter : UInt8)
    (inside : letter ∈ word) (noDigit : isdigit letter = false)
    (absent : letter ∉ 0x2D :: 0x0D :: ascii "Transport: RTP/AVP/UDP;unicast;client_port=") :
    strstr (portLine client) word = false := by
  rw [strstr, decide_eq_false_iff_not]
  intro found
  have number (value : Int) : letter ∉ decimal value := by
    intro member
    rcases decimal_mem member with sign | digit
    · exact absent (sign ▸ List.mem_cons_self)
    · exact absurd (noDigit.symm.trans digit) (by decide)
  have member := found.subset inside
  simp only [List.mem_cons, not_or] at absent
  simp only [portLine, List.mem_append, number, false_or] at member
  rcases member with front | dash | carriage
  · exact absent.2.2 front
  · exact absent.1 (List.mem_singleton.mp dash)
  · exact absent.2.1 (List.mem_singleton.mp carriage)

theorem portLine_givesPorts (client : Int × Int) : givesPorts (portLine client) = true := by
  have keyword : hasKeyword (portLine client) = false := by
    rw [hasKeyword, List.any_eq_false]
    intro word member
    rw [Bool.not_eq_true]
    simp only [keywords, List.mem_cons, List.not_mem_nil, or_false] at member
    rcases member with rfl | rfl | rfl | rfl | rfl | rfl
    · exact portLine_lacks client 0x4F (by decide) (by decide) (by decide)
    · exact portLine_lacks client 0x45 (by decide) (by decide) (by decide)
    · exact portLine_lacks client 0x45 (by decide) (by decide) (by decide)
    · exact portLine_lacks client 0x4C (by decide) (by decide) (by decide)
    · exact portLine_lacks client 0x45 (by decide) (by decide) (by decide)
    · exact portLine_lacks client 0x45 (by decide) (by decide) (by decide)
  have number := @portLine_lacks client (ascii "CSeq") 0x43 (by decide) (by decide) (by decide)
  refine decide_eq_true ⟨keyword, number, ?_⟩
  have front : ascii "Transport:" <+: ascii "Transport: RTP/AVP/UDP;unicast;client_port=" := by
    decide
  exact front.trans (List.prefix_append _ _)

/-- The parser stores what it reads of the two ports. -/
theorem portLine_ports (client : Int × Int) :
    rtpPortOn (portLine client) = some (storeInt client.1) ∧
      rtcpPortOn (portLine client) = some (storeInt client.2) := by
  have ends : ∀ character ∈ (ascii "-" ++ (decimal client.2 ++ [0x0D])).head?,
      isdigit character = false := by
    intro character member
    obtain rfl : 0x2D = character := Option.some.inj member
    decide
  have blanks : scanLiteral (ascii "Transport:") (portLine client) =
      some (ascii " RTP/AVP/UDP;unicast;client_port=" ++
        (decimal client.1 ++ (ascii "-" ++ (decimal client.2 ++ [0x0D])))) :=
    scanLiteral_append (ascii "Transport:") _
  have skipped : (ascii " RTP/AVP/UDP;unicast;client_port=" ++
      (decimal client.1 ++ (ascii "-" ++ (decimal client.2 ++ [0x0D])))).dropWhile isspace =
        ascii "RTP/AVP/UDP;unicast;client_port=" ++
          (decimal client.1 ++ (ascii "-" ++ (decimal client.2 ++ [0x0D]))) := rfl
  have first : scanInt (decimal client.1 ++ (ascii "-" ++ (decimal client.2 ++ [0x0D]))) =
      some (storeInt client.1) := by
    rw [scanInt_eq, scanNumber_append client.1 ends, Option.map_some]
  have second : scanInt (decimal client.2 ++ [0x0D]) = some (storeInt client.2) := by
    rw [scanInt_carriage, scanInt_eq, scanNumber_decimal, Option.map_some]
  have scanned : scanClientPorts (portLine client) =
      some (storeInt client.1, some (storeInt client.2)) := by
    rw [scanClientPorts, blanks, Option.bind_some, skipped, scanLiteral_append, Option.bind_some,
      first, Option.map_some, afterInt_decimal client.1 ends, scanLiteral_append, Option.bind_some,
      second]
  rw [rtpPortOn, rtcpPortOn, if_pos (portLine_givesPorts client),
    if_pos (portLine_givesPorts client), scanned]
  exact ⟨rfl, rfl⟩

end Ports

end FzServer.Parsing
