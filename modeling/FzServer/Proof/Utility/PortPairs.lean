import FzServer.Construction.Utility.PortManager
import FzServer.Foundation.Partition
import Mathlib.Algebra.Group.Nat.Defs
import Mathlib.Data.Finset.Insert

/-
This file shows that no two pairs in use share a port.
-/

namespace FzServer.Utility

open Foundation

theorem and_even (value : Nat) (small : value < 2 ^ 32) :
    value &&& 4294967294 = value / 2 * 2 := by
  have half : (value &&& 4294967294) / 2 = value / 2 := by
    rw [Nat.and_div_two]
    change value / 2 &&& 2 ^ 31 - 1 = value / 2
    rw [Nat.and_two_pow_sub_one_eq_mod, Nat.mod_eq_of_lt (by omega)]
  have parity : (value &&& 4294967294) % 2 ≠ 1 := fun odd =>
    absurd (Nat.and_mod_two_eq_one.mp odd).2 (by decide)
  omega

theorem evenPort_toNat (draw : Draw) :
    (PortManager.evenPort draw).toNat = draw.port.toNat / 2 * 2 := by
  have small := draw.port.toNat_lt
  have mask : (~~~1 : UInt32).toNat = 4294967294 := by decide
  rw [PortManager.evenPort, UInt32.toNat_toUInt16, UInt32.toNat_and, UInt16.toNat_toUInt32, mask,
    and_even _ (by omega), Nat.mod_eq_of_lt (by omega)]

/-- The server hands out no other pairs. -/
structure WellFormed (ports : PortPair) : Prop where
  even : ports.1.toNat % 2 = 0
  low : 55000 ≤ ports.1.toNat
  high : ports.1.toNat + 1 ≤ 65535
  next : ports.2.toNat = ports.1.toNat + 1

def drawnPair (draw : Draw) : PortPair := (PortManager.evenPort draw, PortManager.evenPort draw + 1)

theorem wellFormed_draw (draw : Draw) : WellFormed (drawnPair draw) := by
  have value := evenPort_toNat draw
  have low : 55000 ≤ draw.port.toNat := UInt16.le_iff_toNat_le.mp draw.low
  have high : draw.port.toNat ≤ 65534 := UInt16.le_iff_toNat_le.mp draw.high
  refine ⟨?_, ?_, ?_, ?_⟩
  · change (PortManager.evenPort draw).toNat % 2 = 0
    omega
  · change 55000 ≤ (PortManager.evenPort draw).toNat
    omega
  · change (PortManager.evenPort draw).toNat + 1 ≤ 65535
    omega
  · change (PortManager.evenPort draw + 1).toNat = (PortManager.evenPort draw).toNat + 1
    rw [UInt16.toNat_add, UInt16.toNat_one, Nat.mod_eq_of_lt (by omega)]

def portCells (ports : PortPair) : Finset UInt16 := {ports.1, ports.2}

section Manager

variable {manager next : PortManager} {ports : PortPair}

theorem isPortAvailable_free {port : UInt16} {probe : Probe}
    (available : manager.isPortAvailable port probe = .ok true) :
    port ∉ manager.allocatedPorts := by
  intro taken
  unfold PortManager.isPortAvailable at available
  rw [if_pos taken] at available
  exact absurd available nofun

theorem bothAvailable_free {attempt : Attempt}
    (available : manager.bothAvailable attempt = .ok true) :
    Disjoint (portCells (drawnPair attempt.draw)) manager.allocatedPorts := by
  cases first : manager.isPortAvailable (PortManager.evenPort attempt.draw) attempt.rtpProbe with
  | error exception =>
      simp only [PortManager.bothAvailable, first] at available
      exact absurd available nofun
  | ok answer =>
      simp only [PortManager.bothAvailable, first] at available
      cases answer with
      | false => exact absurd available nofun
      | true =>
          rw [portCells, Finset.disjoint_insert_left, Finset.disjoint_singleton_left]
          exact ⟨isPortAvailable_free first, isPortAvailable_free available⟩

/-- A pair that is returned was free and is allocated now. -/
theorem generatePorts_ok {attempts : List Attempt}
    (returned : manager.generatePorts attempts = some (.ok (ports, next))) :
    (∃ attempt ∈ attempts, ports = drawnPair attempt.draw) ∧
      Disjoint (portCells ports) manager.allocatedPorts ∧ next = manager.allocate ports := by
  induction attempts with
  | nil => exact absurd returned nofun
  | cons attempt attempts ih =>
      unfold PortManager.generatePorts at returned
      split at returned
      next => exact absurd returned nofun
      next available =>
        cases returned
        exact ⟨⟨attempt, List.mem_cons_self, rfl⟩, bothAvailable_free available, rfl⟩
      next =>
        obtain ⟨⟨drawn, member, same⟩, rest⟩ := ih returned
        exact ⟨⟨drawn, List.mem_cons_of_mem _ member, same⟩, rest⟩

theorem generatePorts_wellFormed {attempts : List Attempt}
    (returned : manager.generatePorts attempts = some (.ok (ports, next))) : WellFormed ports := by
  obtain ⟨⟨attempt, _, rfl⟩, _⟩ := generatePorts_ok returned
  exact wellFormed_draw attempt.draw

theorem allocate_cells :
    (manager.allocate ports).allocatedPorts = portCells ports ∪ manager.allocatedPorts := by
  ext port
  simp only [PortManager.allocate, portCells, Finset.mem_insert, Finset.mem_union,
    Finset.mem_singleton]
  tauto

theorem releasePorts_cells :
    (manager.releasePorts ports).allocatedPorts = manager.allocatedPorts \ portCells ports := by
  ext port
  simp only [PortManager.releasePorts, portCells, Finset.mem_erase, Finset.mem_sdiff,
    Finset.mem_insert, Finset.mem_singleton]
  tauto

end Manager

/-- The pairs in use share out the allocated ports. -/
structure SoundPorts (history : PortHistory) : Prop where
  returned : ∀ ports ∈ history.returned, WellFormed ports
  outstanding : ∀ ports ∈ history.outstanding, ports ∈ history.returned
  shared : Partitioned portCells history.outstanding history.manager.allocatedPorts

variable {history next : PortHistory}

theorem SoundPorts.start : SoundPorts .start where
  returned := nofun
  outstanding := nofun
  shared := Partitioned.nil

theorem SoundPorts.generate (sound : SoundPorts history) {attempts : List Attempt}
    (now : history.generate attempts = some next) : SoundPorts next := by
  unfold PortHistory.generate at now
  split at now
  next => exact absurd now nofun
  next =>
    cases now
    exact sound
  next ports manager returned =>
    cases now
    obtain ⟨_, fresh, allocated⟩ := generatePorts_ok returned
    refine ⟨?_, ?_, ?_⟩
    · exact List.forall_mem_cons.mpr ⟨generatePorts_wellFormed returned, sound.returned⟩
    · refine List.forall_mem_cons.mpr ⟨List.mem_cons_self, fun other member => ?_⟩
      exact List.mem_cons_of_mem _ (sound.outstanding other member)
    · change Partitioned portCells (ports :: history.outstanding) manager.allocatedPorts
      rw [allocated, allocate_cells]
      exact sound.shared.take fresh

theorem SoundPorts.release (sound : SoundPorts history) {ports : PortPair}
    (now : history.release ports = some next) : SoundPorts next := by
  unfold PortHistory.release at now
  split_ifs at now with member
  cases now
  refine ⟨sound.returned, fun other left => ?_, ?_⟩
  · exact sound.outstanding other (List.mem_of_mem_erase left)
  · change Partitioned portCells (history.outstanding.erase ports)
      (history.manager.releasePorts ports).allocatedPorts
    rw [releasePorts_cells]
    exact sound.shared.give member

theorem SoundPorts.step (sound : SoundPorts history) {call : PortCall}
    (now : history.step call = some next) : SoundPorts next := by
  cases call with
  | generatePorts => exact sound.generate now
  | releasePorts => exact sound.release now

theorem soundPorts_run {schedule : List PortCall} {final : PortHistory}
    (run : follow PortHistory.step .start schedule = some final) : SoundPorts final :=
  follow_invariant (fun history _ => SoundPorts history)
    (fun _ _ _ _ sound now => sound.step now) SoundPorts.start run

/-- Every pair is well formed, and the pairs in use are disjoint and make up all allocated ports. -/
theorem portPairs_disjoint {schedule : List PortCall} {final : PortHistory}
    (run : follow PortHistory.step .start schedule = some final) :
    (∀ ports ∈ final.returned, WellFormed ports) ∧
      (∀ ports ∈ final.outstanding, ports ∈ final.returned) ∧
      (final.outstanding.Pairwise fun first second =>
        Disjoint (portCells first) (portCells second)) ∧
      ∀ port, port ∈ final.manager.allocatedPorts ↔
        ∃ ports ∈ final.outstanding, port ∈ portCells ports := by
  have sound := soundPorts_run run
  exact ⟨sound.returned, sound.outstanding, sound.shared.apart, sound.shared.union⟩

/-- The second call meets ports of the first one and an occupied port. -/
def twoPairs : List PortCall :=
  let low : Draw := ⟨55001, by decide, by decide⟩
  let high : Draw := ⟨65534, by decide, by decide⟩
  [.generatePorts [⟨low, .bound, .bound⟩],
    .generatePorts [⟨low, .bound, .bound⟩, ⟨high, .bound, .occupied⟩, ⟨high, .bound, .bound⟩],
    .generatePorts [⟨⟨60000, by decide, by decide⟩, .noSocket 24, .bound⟩],
    .releasePorts (55000, 55001), .generatePorts [⟨low, .bound, .bound⟩]]

theorem portPairs_disjoint_twoPairs :
    let final := (follow PortHistory.step .start twoPairs).get (by decide +kernel)
    (∀ ports ∈ final.returned, WellFormed ports) ∧
      (∀ ports ∈ final.outstanding, ports ∈ final.returned) ∧
      (final.outstanding.Pairwise fun first second =>
        Disjoint (portCells first) (portCells second)) ∧
      ∀ port, port ∈ final.manager.allocatedPorts ↔
        ∃ ports ∈ final.outstanding, port ∈ portCells ports :=
  portPairs_disjoint (Option.some_get _).symm

end FzServer.Utility
