import Cvc.Lemmas.TrivialInverter
import Cvc.Lib.Paths
import Cvc.Netlist

/-!
# The parent of a power switch

`SetSCRCParentPower` follows `inverterNet_v` from the gate of a power switch, as `SetTrivialMinMaxPower` has recorded it. The loop
ends unless it comes to a ring of inverters that has no sim voltage at any of its nets. A pair of inverters that drive each other
is such a ring.
-/

namespace Cvc

open Paths Program

/-- The loop of `SetSCRCParentPower` goes on at a net. -/
def IsFollowed (inverterNet : Nat → Nat) (s : NetState) (n : Nat) : Prop :=
  inverterNet n ≠ unknownNet ∧ s.hasSimVoltage n = false

/-- One round of the loop: from the output of an inverter to its input. -/
def FollowStep (inverterNet : Nat → Nat) (s : NetState) (n m : Nat) : Prop := IsFollowed inverterNet s n ∧ m = inverterNet n

/-- The loop ends, with the expected level inverted once for each inverter that it has passed. -/
def FindsParent (inverterNet : Nat → Nat) (s : NetState) (gate : Nat) (theExpectedHighInput : Bool) : Prop :=
  ∃ rounds k, parentNet inverterNet s rounds gate theExpectedHighInput =
    .ok (inverterNet^[k] gate, not^[k] theExpectedHighInput) ∧
    (∀ j < k, IsFollowed inverterNet s (inverterNet^[j] gate)) ∧ ¬ IsFollowed inverterNet s (inverterNet^[k] gate)

section Loop
variable {inv : Nat → Nat} {s : NetState} {n : Nat}

theorem parentNet_of_followed (h : IsFollowed inv s n) (rounds : Nat) (high : Bool) :
    parentNet inv s (rounds + 1) n high = parentNet inv s rounds (inv n) (!high) := by
  exact if_pos h

theorem parentNet_zero_of_followed (h : IsFollowed inv s n) (high : Bool) : parentNet inv s 0 n high = .error .endless := by
  exact if_pos h

/-- The loop ends when the chain of inverters does. -/
theorem findsParent_of_not_deep {rounds : Nat} (h : ¬ Deep (FollowStep inv s) rounds n) (high : Bool) :
    FindsParent inv s n high := by
  refine ⟨rounds, ?_⟩
  induction rounds generalizing n high with
  | zero => exact absurd trivial h
  | succ rounds ih =>
    by_cases hn : IsFollowed inv s n
    · obtain ⟨k, hrun, hbefore, hstop⟩ := ih (fun hdeep => h ⟨_, ⟨hn, rfl⟩, hdeep⟩) (!high)
      refine ⟨k + 1, ?_, fun j hj => ?_, hstop⟩
      · rw [parentNet_of_followed hn, hrun]
        rfl
      · cases j with
        | zero => exact hn
        | succ j => exact hbefore j (by omega)
    · exact ⟨0, by rw [parentNet.eq_def]; exact if_neg hn, fun j hj => absurd hj (Nat.not_lt_zero j), hn⟩

theorem not_deep_of_parentNet {rounds : Nat} {high : Bool} {result : Nat × Bool}
    (h : parentNet inv s rounds n high = .ok result) : ¬ Deep (FollowStep inv s) (rounds + 1) n := by
  rintro ⟨m, ⟨hn, rfl⟩, hdeep⟩
  induction rounds generalizing n high with
  | zero =>
    rw [parentNet_zero_of_followed hn] at h
    nomatch h
  | succ rounds ih =>
    rw [parentNet_of_followed hn] at h
    obtain ⟨m, ⟨hm, rfl⟩, hdeep⟩ := hdeep
    exact ih h hm hdeep

end Loop

namespace FlatCircuit

variable {c : FlatCircuit} {s t : PropagationState} {inv : Nat → Nat}

/-- The recorded inputs are gate nets of devices. -/
theorem mem_gateNets (hrun : c.setTrivialInverters (fun _ => unknownNet) s = .ok inv t) {n : Nat}
    (hn : inv n ≠ unknownNet) : inv n ∈ (List.range c.deviceCount).map c.gateNet := by
  have hinv := ((wp_setTrivialInverters s _).of_ok hrun).2 n
  cases hi : c.trivialInverter s n with
  | none => simp [hi, recordInverter, hn] at hinv
  | some i =>
    have hfound := trivialInverter_eq_some.1 hi
    have hgate : inv n = c.gateNet i.nmos := by
      split at hinv
      · simpa [hi, recordInverter, hfound.gateNet] using hinv
      · exact absurd hinv hn
    have hlt : i.nmos < c.deviceCount := by
      obtain ⟨-, -, hmem⟩ := trivialMos_eq_some hfound.nmos
      refine c.device_lt n _ ?_
      simp only [List.mem_append]
      exact .inl hmem
    exact List.mem_map.2 ⟨_, List.mem_range.2 hlt, hgate.symm⟩

/-- The search from the gate of a device ends, with the right level, exactly when no ring of inverters without a sim voltage is
reached from it. -/
theorem findsParent_iff (c : FlatCircuit) (s t : PropagationState) (inverterNet : Nat → Nat)
    (hrun : c.setTrivialInverters (fun _ => unknownNet) s = .ok inverterNet t) (u : NetState) (theDeviceId : Nat)
    (theExpectedHighInput : Bool) :
    FindsParent inverterNet u (c.gateNet theDeviceId) theExpectedHighInput ↔
      NoCycleFrom (FollowStep inverterNet u) (c.gateNet theDeviceId) := by
  rw [← exists_not_deep_iff (l := (List.range c.deviceCount).map c.gateNet)]
  · constructor
    · rintro ⟨rounds, k, hparent, -⟩
      exact ⟨rounds + 1, not_deep_of_parentNet hparent⟩
    · rintro ⟨rounds, hdeep⟩
      exact findsParent_of_not_deep hdeep theExpectedHighInput
  · rintro n m ⟨hn, rfl⟩
    exact mem_gateNets hrun hn.1

/-! ## Two inverters that drive each other -/

/-- Two inverters between the nets 2 and 3, and a switch with the net 3 at its gate from the power 1 to the net 4. -/
def latchDevices : List FlatDevice :=
  [{ type := .nmos, source := 0, gate := 2, drain := 3, bulk := 0 },
    { type := .pmos, source := 1, gate := 2, drain := 3, bulk := 1 },
    { type := .nmos, source := 0, gate := 3, drain := 2, bulk := 0 },
      { type := .pmos, source := 1, gate := 3, drain := 2, bulk := 1 },
    { type := .pmos, source := 1, gate := 3, drain := 4, bulk := 1 }]

def latchCircuit : FlatCircuit := .ofDevices 5 latchDevices (by decide) false false

/-- The two powers, the open power behind the switch, and some more. -/
def latchNets (powers : List CPower) : NetState :=
  .ofPowers 5 latchDevices
    ([{ netId := 0, minVoltage := 0, simVoltage := 0, maxVoltage := 0, type := { powerBit := true } },
      { netId := 1, minVoltage := 1200, simVoltage := 1200, maxVoltage := 1200, type := { powerBit := true } },
      { netId := 4, minVoltage := 1200, maxVoltage := 1200, type := { hizBit := true } }] ++ powers)

def latchState : PropagationState := ⟨latchNets [], .reset 5, []⟩

/-- The two inverters are recorded. -/
theorem latch_inverterNet : ∃ inv t, latchCircuit.setTrivialInverters (fun _ => unknownNet) latchState = .ok inv t ∧
    inv 2 = 3 ∧ inv 3 = 2 ∧ t.nets.hasSimVoltage 2 = false ∧ t.nets.hasSimVoltage 3 = false := by
  have hrun : (match latchCircuit.setTrivialInverters (fun _ => unknownNet) latchState with
      | .ok inv t => some (inv 2, inv 3, t.nets.hasSimVoltage 2, t.nets.hasSimVoltage 3)
      | .error _ _ => none) = some (3, 2, false, false) := by decide +kernel
  split at hrun
  case h_1 _ inv t ht =>
    simp only [Option.some.injEq, Prod.mk.injEq] at hrun
    exact ⟨inv, t, ht, hrun⟩
  case h_2 => nomatch hrun

/-- With a sim voltage at the net 2 the search passes one inverter. -/
theorem latch_findsParent : ∃ inverterNet t,
    latchCircuit.setTrivialInverters (fun _ => unknownNet) latchState = .ok inverterNet t ∧
    FindsParent inverterNet (latchNets [{ netId := 2, simVoltage := 0 }]) (latchCircuit.gateNet 4) true := by
  obtain ⟨inverterNet, t, hrun, h2, h3, -⟩ := latch_inverterNet
  refine ⟨inverterNet, t, hrun, (findsParent_iff _ _ _ _ hrun _ 4 true).2 ?_⟩
  rw [← exists_not_deep_iff (l := (List.range latchCircuit.deviceCount).map latchCircuit.gateNet)]
  · refine ⟨2, ?_⟩
    rintro ⟨_, ⟨-, rfl⟩, _, ⟨hstop, rfl⟩, -⟩
    have hgate : latchCircuit.gateNet 4 = 3 := rfl
    rw [hgate, h3] at hstop
    exact absurd hstop.2 (by decide +kernel)
  · rintro n m ⟨hn, rfl⟩
    exact mem_gateNets hrun hn.1

/-- Without one it goes on forever. -/
theorem latch_endless : ∃ inverterNet t, latchCircuit.setTrivialInverters (fun _ => unknownNet) latchState = .ok inverterNet t ∧
    (∀ rounds high, latchCircuit.setSCRCParentPower inverterNet t.nets rounds 4 high = .error .endless) ∧
    ¬ FindsParent inverterNet t.nets (latchCircuit.gateNet 4) true := by
  obtain ⟨inverterNet, t, hrun, h2, h3, hsim2, hsim3⟩ := latch_inverterNet
  have hfollowed : ∀ n, n = 2 ∨ n = 3 → IsFollowed inverterNet t.nets n ∧ (inverterNet n = 2 ∨ inverterNet n = 3) := by
    rintro n (rfl | rfl)
    · exact ⟨⟨by rw [h2]; decide, hsim2⟩, .inr h2⟩
    · exact ⟨⟨by rw [h3]; decide, hsim3⟩, .inl h3⟩
  have hendless : ∀ rounds n high, n = 2 ∨ n = 3 → parentNet inverterNet t.nets rounds n high = .error .endless := by
    intro rounds
    induction rounds with
    | zero => exact fun n high hn => parentNet_zero_of_followed (hfollowed n hn).1 high
    | succ rounds ih =>
      intro n high hn
      rw [parentNet_of_followed (hfollowed n hn).1]
      exact ih _ _ (hfollowed n hn).2
  refine ⟨inverterNet, t, hrun, fun rounds high => ?_, ?_⟩
  · unfold setSCRCParentPower
    rw [hendless rounds (latchCircuit.gateNet 4) high (.inr rfl)]
    rfl
  · rintro ⟨rounds, k, hparent, -⟩
    nomatch (hendless rounds (latchCircuit.gateNet 4) true (.inr rfl)).symm.trans hparent

end FlatCircuit
end Cvc
