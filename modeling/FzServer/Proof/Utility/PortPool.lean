import FzServer.Proof.Utility.PortPairs
import Mathlib.Data.Finset.Image

/-
This file counts the pairs of ports that the server can still hand out.
-/

namespace FzServer.Utility

open Foundation

/-- The loop returns with this draw when both probes succeed. -/
def PortManager.Returns (manager : PortManager) (draw : Draw) : Prop :=
  ∃ ports next, manager.generatePorts [⟨draw, .bound, .bound⟩] = some (.ok (ports, next))

section Loop

variable {manager : PortManager} {draw : Draw}

theorem generatePorts_free (free : Disjoint (portCells (drawnPair draw)) manager.allocatedPorts) :
    manager.generatePorts [⟨draw, .bound, .bound⟩] =
      some (.ok (drawnPair draw, manager.allocate (drawnPair draw))) := by
  rw [portCells, Finset.disjoint_insert_left, Finset.disjoint_singleton_left] at free
  obtain ⟨rtpFree, rtcpFree⟩ : PortManager.evenPort draw ∉ manager.allocatedPorts ∧
    PortManager.evenPort draw + 1 ∉ manager.allocatedPorts := free
  have available : manager.bothAvailable ⟨draw, .bound, .bound⟩ = .ok true := by
    simp only [PortManager.bothAvailable, PortManager.isPortAvailable]
    rw [if_neg rtpFree]
    exact if_neg rtcpFree
  unfold PortManager.generatePorts
  rw [available]
  rfl

theorem returns_iff :
    manager.Returns draw ↔ Disjoint (portCells (drawnPair draw)) manager.allocatedPorts := by
  constructor
  · rintro ⟨ports, next, returned⟩
    obtain ⟨⟨attempt, member, rfl⟩, fresh, _⟩ := generatePorts_ok returned
    rw [List.mem_singleton.mp member] at fresh
    exact fresh
  · exact fun free => ⟨_, _, generatePorts_free free⟩

end Loop

/-- The even ports that a draw can give. -/
def evenPorts : Finset Nat := (Finset.range 5268).image fun index => 55000 + 2 * index

theorem mem_evenPorts {port : Nat} :
    port ∈ evenPorts ↔ port % 2 = 0 ∧ 55000 ≤ port ∧ port ≤ 65534 := by
  rw [evenPorts, Finset.mem_image]
  constructor
  · rintro ⟨index, inside, rfl⟩
    have small := Finset.mem_range.mp inside
    omega
  · rintro ⟨even, low, high⟩
    exact ⟨(port - 55000) / 2, Finset.mem_range.mpr (by omega), by omega⟩

theorem evenPorts_card : evenPorts.card = 5268 := by
  rw [evenPorts, Finset.card_image_of_injective, Finset.card_range]
  intro first second same
  exact Nat.eq_of_mul_eq_mul_left Nat.zero_lt_two (Nat.add_left_cancel same)

theorem evenPort_mem (draw : Draw) : (PortManager.evenPort draw).toNat ∈ evenPorts := by
  have wellFormed := wellFormed_draw draw
  exact mem_evenPorts.mpr ⟨wellFormed.even, wellFormed.low, Nat.le_of_succ_le_succ wellFormed.high⟩

theorem exists_draw {port : Nat} (member : port ∈ evenPorts) :
    ∃ draw, (PortManager.evenPort draw).toNat = port := by
  obtain ⟨even, low, high⟩ := mem_evenPorts.mp member
  have value : (UInt16.ofNat port).toNat = port := by
    apply UInt16.toNat_ofNat_of_lt'
    change port < 65536
    omega
  refine ⟨⟨UInt16.ofNat port, ?_, ?_⟩, ?_⟩
  · rw [UInt16.le_iff_toNat_le, value]
    exact low
  · rw [UInt16.le_iff_toNat_le, value]
    exact high
  · rw [evenPort_toNat, value]
    omega

/-- These pairs were handed out, and none of them has come back. -/
structure Holds (manager : PortManager) (pairs : List PortPair) : Prop where
  wellFormed : ∀ ports ∈ pairs, WellFormed ports
  shared : Partitioned portCells pairs manager.allocatedPorts

def firstPorts (pairs : List PortPair) : Finset Nat :=
  (pairs.map fun ports => ports.1.toNat).toFinset

namespace Holds

variable {manager : PortManager} {pairs : List PortPair}

theorem empty : Holds .empty [] := ⟨nofun, Partitioned.nil⟩

theorem generatePorts (holds : Holds manager pairs) {attempts : List Attempt} {ports : PortPair}
    {next : PortManager} (returned : manager.generatePorts attempts = some (.ok (ports, next))) :
    Holds next (ports :: pairs) := by
  obtain ⟨_, fresh, allocated⟩ := generatePorts_ok returned
  refine ⟨List.forall_mem_cons.mpr ⟨generatePorts_wellFormed returned, holds.wellFormed⟩, ?_⟩
  rw [allocated, allocate_cells]
  exact holds.shared.take fresh

theorem firstPorts_card (holds : Holds manager pairs) :
    (firstPorts pairs).card = pairs.length := by
  have distinct : (pairs.map fun ports => ports.1.toNat).Nodup := by
    refine List.Pairwise.map _ (fun first second apart same => ?_) holds.shared.apart
    apply Finset.disjoint_left.mp apart (Finset.mem_insert_self _ _)
    rw [UInt16.toNat_inj.mp same]
    exact Finset.mem_insert_self _ _
  rw [firstPorts, List.toFinset_card_of_nodup distinct, List.length_map]

theorem firstPorts_subset (holds : Holds manager pairs) : firstPorts pairs ⊆ evenPorts := by
  intro port member
  obtain ⟨ports, inside, rfl⟩ := List.mem_map.mp (List.mem_toFinset.mp member)
  have wellFormed := holds.wellFormed ports inside
  exact mem_evenPorts.mpr ⟨wellFormed.even, wellFormed.low, Nat.le_of_succ_le_succ wellFormed.high⟩

theorem mem_pair {ports : PortPair} (wellFormed : WellFormed ports) {port : UInt16}
    (member : port ∈ portCells ports) : port.toNat / 2 * 2 = ports.1.toNat := by
  have even := wellFormed.even
  have next := wellFormed.next
  rcases Finset.mem_insert.mp member with rfl | second
  · omega
  · rw [Finset.mem_singleton.mp second]
    omega

/-- Only the first port of a pair decides whether the pair is free. -/
theorem returns_iff (holds : Holds manager pairs) (draw : Draw) :
    manager.Returns draw ↔ (PortManager.evenPort draw).toNat ∉ firstPorts pairs := by
  rw [Utility.returns_iff, Finset.disjoint_left, firstPorts, List.mem_toFinset, List.mem_map]
  constructor
  · rintro free ⟨ports, inside, same⟩
    apply free (Finset.mem_insert_self _ _)
    refine (holds.shared.union _).mpr ⟨ports, inside, ?_⟩
    rw [portCells, UInt16.toNat_inj.mp same]
    exact Finset.mem_insert_self _ _
  · intro fresh port drawn taken
    obtain ⟨ports, inside, here⟩ := (holds.shared.union port).mp taken
    refine fresh ⟨ports, inside, ?_⟩
    rw [← mem_pair (holds.wellFormed ports inside) here, mem_pair (wellFormed_draw draw) drawn]
    rfl

theorem available_iff (holds : Holds manager pairs) :
    (∃ draw, manager.Returns draw) ↔ pairs.length < 5268 := by
  have some_left : (∃ draw, manager.Returns draw) ↔
      ∃ port ∈ evenPorts, port ∉ firstPorts pairs := by
    constructor
    · rintro ⟨draw, returns⟩
      exact ⟨_, evenPort_mem draw, (holds.returns_iff draw).mp returns⟩
    · rintro ⟨port, even, fresh⟩
      obtain ⟨draw, rfl⟩ := exists_draw even
      exact ⟨draw, (holds.returns_iff draw).mpr fresh⟩
  rw [some_left, ← Finset.ssubset_iff_of_subset holds.firstPorts_subset, ← evenPorts_card,
    ← holds.firstPorts_card]
  constructor
  · exact Finset.card_lt_card
  · intro fewer
    refine Finset.ssubset_iff_subset_ne.mpr ⟨holds.firstPorts_subset, fun same => ?_⟩
    rw [same] at fewer
    exact Nat.lt_irrefl _ fewer

end Holds

end FzServer.Utility
