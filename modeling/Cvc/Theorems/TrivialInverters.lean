import Cvc.Lemmas.TrivialInverter
import Cvc.Netlist

/-!
# Trivial inverters and defined voltages

What `SetTrivialMinMaxPower` may change: the links of nets without a link and without a defined voltage, to the two powers of an
inverter. The test of the defined voltages compares the min voltage twice, so a net with a defined max voltage only is linked as
well.
-/

namespace Cvc
open Option

namespace FlatCircuit

variable (c : FlatCircuit)

/-- The link of a net in the vector of a queue has changed. -/
def Relinked (s t : PropagationState) (queue : EventQueueType) (n : Nat) : Prop :=
  (t.nets.virtualNet queue).next n ≠ (s.nets.virtualNet queue).next n ∨
    (t.nets.virtualNet queue).linkResistance n ≠ (s.nets.virtualNet queue).linkResistance n

/-- Neither the min nor the max voltage of the net is defined. -/
def IsUndefined (s : PropagationState) (n : Nat) : Prop :=
  ∀ p, s.nets.netVoltagePtr n = some p →
    (s.nets.power p).minVoltage = unknownVoltage ∧ (s.nets.power p).maxVoltage = unknownVoltage

/-- The net is linked to the fixed powers at the far sides of an NMOS and a PMOS that share a gate net other than the net, in
increasing order. -/
structure LinkedBy (s t : PropagationState) (n nmos pmos : Nat) : Prop where
  type_nmos : (c.deviceType nmos).isNmos = true
  type_pmos : (c.deviceType pmos).isPmos = true
  gate_eq : c.gateNet pmos = c.gateNet nmos
  gate_ne : c.gateNet nmos ≠ n
  powers : ∃ low high, c.otherSide nmos n = some ((t.nets.virtualNet .minQueue).next n) ∧
    c.otherSide pmos n = some ((t.nets.virtualNet .maxQueue).next n) ∧
    IsFixedPower s.nets ((t.nets.virtualNet .minQueue).next n) low ∧
    IsFixedPower s.nets ((t.nets.virtualNet .maxQueue).next n) high ∧ low < high

/-- Only nets that linked to themselves and have no defined voltage are linked, each by two transistors, and nothing changes but
their links, caches and the status of those transistors. -/
structure RespectsDefinitions (s t : PropagationState) : Prop where
  nets : t.nets = { s.nets with virtualNet := t.nets.virtualNet }
  sim : ∀ n, ¬ Relinked s t .simQueue n
  linked : ∀ n, Relinked s t .minQueue n ∨ Relinked s t .maxQueue n →
    (s.nets.virtualNet .minQueue).next n = n ∧ (s.nets.virtualNet .maxQueue).next n = n ∧ IsUndefined s n ∧
      ∃ nmos pmos, c.LinkedBy s t n nmos pmos
  devices : t.devices = { s.devices with deviceStatus := t.devices.deviceStatus }
  status : ∀ d, t.devices.deviceStatus d ≠ s.devices.deviceStatus d →
    ∃ n nmos pmos, (Relinked s t .minQueue n ∨ Relinked s t .maxQueue n) ∧ c.LinkedBy s t n nmos pmos ∧ (d = nmos ∨ d = pmos)

/-- The nets that are driven by an inverter between two fixed powers have no defined max voltage, and none of these powers links
to the net it drives. -/
def DrivesUndefined (s : PropagationState) : Prop :=
  ∀ n < c.netCount, ∀ i, c.trivialInverter s n = some i →
    (∀ p, s.nets.netVoltagePtr n = some p → (s.nets.power p).maxVoltage = unknownVoltage) ∧
    (s.nets.virtualNet .minQueue).linksBack n i.groundNet = false ∧ (s.nets.virtualNet .maxQueue).linksBack n i.powerNet = false

variable {c} {s t : PropagationState} {n d : Nat} {i : TrivialInverter}

theorem otherSide_ne {x : Nat} (h : c.otherSide d n = some x) (hne : c.sourceNet d ≠ c.drainNet d) : x ≠ n := by
  rintro rfl
  unfold otherSide at h
  split_ifs at h with h1 h2
  · exact hne (h1.trans (some.inj h).symm)
  · exact h1 (some.inj h)

namespace FindsInverter

variable (h : c.FindsInverter s n i)
include h

theorem next_self : (s.nets.virtualNet .minQueue).next n = n ∧ (s.nets.virtualNet .maxQueue).next n = n := by
  have := h.candidate
  simp only [isTrivialCandidate, CVirtualNetVector.isTerminal, Bool.and_eq_true, beq_iff_eq] at this
  exact ⟨this.1.1.1.1.1.2.symm, this.1.1.1.1.2.symm⟩

theorem minVoltage_eq {p : Nat} (hp : s.nets.netVoltagePtr n = some p) : (s.nets.power p).minVoltage = unknownVoltage := by
  have := h.candidate
  simp only [isTrivialCandidate, Bool.and_eq_true, hp, all_some, beq_iff_eq] at this
  exact this.1.1.1.2

/-- The net that a queue links to is another one, and the net itself is not linked. -/
theorem of_target {q : EventQueueType} {g : Nat} (ht : i.target q = some (g, d)) :
    (s.nets.virtualNet q).next n = n ∧ g ≠ n := by
  cases q <;> cases ht
  case minQueue => exact ⟨h.next_self.1, otherSide_ne h.ground (trivialMos_eq_some h.nmos).2.1⟩
  case maxQueue => exact ⟨h.next_self.2, otherSide_ne h.power (trivialMos_eq_some h.pmos).2.1⟩

/-- The output of an inverter has no fixed power of its own. -/
theorem not_fixed {v : Int} : ¬ IsFixedPower s.nets n v := fun hv => by
  have := h.candidate
  rw [hv.not_candidate] at this
  nomatch this

end FindsInverter

section
variable (h : c.LinkedAt (· < c.netCount) s t)
include h

/-- A net that has changed has a new link. -/
theorem LinkedAt.of_relinked {q : EventQueueType} (hr : Relinked s t q n) : n < c.netCount ∧ (c.newLink s q n).isSome := by
  have hlink := h.nets.link q n
  by_contra hnot
  have hnone : (if n < c.netCount then c.newLink s q n else none) = none := by
    split
    · simpa [*] using hnot
    · rfl
  rw [hnone] at hlink
  exact hr.elim (fun hne => hne (congrArg Prod.fst hlink)) fun hne => hne (congrArg Prod.snd hlink)

section
variable (hn : n < c.netCount)
include hn

section
variable (hi : c.trivialInverter s n = some i)
include hi

/-- The net of an inverter is linked to its target, unless the target links back to it. -/
theorem LinkedAt.next_eq {q : EventQueueType} {g : Nat} (ht : i.target q = some (g, d)) :
    (t.nets.virtualNet q).next n = if (s.nets.virtualNet q).linksBack n g then n else g := by
  refine (congrArg Prod.fst (h.nets.link q n)).trans ?_
  have hself := ((trivialInverter_eq_some.1 hi).of_target ht).1
  cases hb : (s.nets.virtualNet q).linksBack n g <;>
    simp [hn, newLink, hi, linkBy, ht, hb, hself, CVirtualNetVector.linkOf]

section
variable (hmin : (s.nets.virtualNet .minQueue).linksBack n i.groundNet = false)
include hmin

/-- A net whose inverter is not linked back to is linked by it. -/
theorem LinkedAt.linkedBy (hmax : (s.nets.virtualNet .maxQueue).linksBack n i.powerNet = false) :
    c.LinkedBy s t n i.nmos i.pmos := by
  have hfound := trivialInverter_eq_some.1 hi
  obtain ⟨low, high, hlow, hhigh, hlt⟩ := isTrivialPower_iff.1 hfound.powers
  have hground : (t.nets.virtualNet .minQueue).next n = i.groundNet := by simp [h.next_eq hn hi (q := .minQueue) rfl, hmin]
  have hpower : (t.nets.virtualNet .maxQueue).next n = i.powerNet := by simp [h.next_eq hn hi (q := .maxQueue) rfl, hmax]
  refine ⟨(trivialMos_eq_some hfound.nmos).1, (trivialMos_eq_some hfound.pmos).1, hfound.gate_eq, hfound.gate_ne, low, high, ?_⟩
  rw [hground, hpower]
  exact ⟨hfound.ground, hfound.power, hlow, hhigh, hlt⟩

theorem LinkedAt.relinked_min : Relinked s t .minQueue n := by
  obtain ⟨hself, hne⟩ := (trivialInverter_eq_some.1 hi).of_target (q := .minQueue) rfl
  refine .inl ?_
  rwa [h.next_eq hn hi (q := .minQueue) rfl, hmin, hself]

end
end
end

/-- A net that has changed is driven by an inverter. -/
theorem LinkedAt.exists_inverter {q : EventQueueType} (hr : Relinked s t q n) :
    n < c.netCount ∧ ∃ i, c.trivialInverter s n = some i := by
  obtain ⟨hn, hsome⟩ := h.of_relinked hr
  cases hi : c.trivialInverter s n with
  | none => simp [newLink, hi] at hsome
  | some i => exact ⟨hn, i, rfl⟩

end

section
variable (hr : c.RespectsDefinitions s t) (h : c.LinkedAt (· < c.netCount) s t) (hn : n < c.netCount)
    (hi : c.trivialInverter s n = some i)
include hr h hn hi

/-- The links of the inverters leave no net with a link of one side only. -/
theorem RespectsDefinitions.linksBack_eq_false (hchanged : Relinked s t .minQueue n ∨ Relinked s t .maxQueue n) :
    (s.nets.virtualNet .minQueue).linksBack n i.groundNet = false ∧
      (s.nets.virtualNet .maxQueue).linksBack n i.powerNet = false := by
  have hfound := trivialInverter_eq_some.1 hi
  obtain ⟨-, -, -, nmos, pmos, hlinked⟩ := hr.linked n hchanged
  obtain ⟨low, high, -, -, hlow, hhigh, -⟩ := hlinked.powers
  constructor
  · rw [Bool.eq_false_iff]
    intro hback
    rw [h.next_eq hn hi (q := .minQueue) rfl, if_pos hback] at hlow
    exact hfound.not_fixed hlow
  · rw [Bool.eq_false_iff]
    intro hback
    rw [h.next_eq hn hi (q := .maxQueue) rfl, if_pos hback] at hhigh
    exact hfound.not_fixed hhigh

/-- A net that is driven by an inverter has changed, if the statuses of the transistors are accounted for. -/
theorem RespectsDefinitions.relinked : Relinked s t .minQueue n ∨ Relinked s t .maxQueue n := by
  have hfound := trivialInverter_eq_some.1 hi
  have hstatus : t.devices.deviceStatus i.nmos ≠ s.devices.deviceStatus i.nmos := by
    rw [h.inactive i.nmos n hn ⟨i, hi, .inl rfl⟩]
    intro he
    have := hfound.active_nmos
    unfold DeviceState.inactive DeviceStatus.inactive at this
    rw [← he] at this
    nomatch this
  obtain ⟨m, nmos, pmos, hchanged, hlinked, hd⟩ := hr.status _ hstatus
  rcases eq_or_ne m n with rfl | hne
  · exact hchanged
  -- the transistor has the net and a fixed power on its sides, and a changed net is neither
  exfalso
  have hnmos : i.nmos = nmos := by
    rcases hd with hd | hd
    · exact hd
    have h1 := (trivialMos_eq_some hfound.nmos).1
    have h2 := hlinked.type_pmos
    rw [← hd] at h2
    unfold ModelType.isNmos at h1
    unfold ModelType.isPmos at h2
    cases hty : c.deviceType i.nmos <;> simp [hty] at h1 h2
  obtain ⟨low, high, hside, -, -, -, -⟩ := hlinked.powers
  rw [← hnmos] at hside
  have hm := eq_of_otherSide hside hfound.ground hne
  obtain ⟨v, hv⟩ := hfound.fixed.1
  rcases hchanged with hchanged | hchanged <;>
  · obtain ⟨-, j, hj⟩ := h.exists_inverter hchanged
    exact (trivialInverter_eq_some.1 hj).not_fixed (hm ▸ hv)

end

/-- The loop respects the defined voltages exactly when no inverter drives a net with a defined max voltage, or one that its
powers link to. -/
theorem respectsDefinitions_iff (c : FlatCircuit) (s t : PropagationState) (hrun : c.setTrivialMinMaxPower s = .ok ⟨⟩ t) :
    c.RespectsDefinitions s t ↔ c.DrivesUndefined s := by
  have h := linkedAt_of_setTrivialMinMaxPower hrun
  constructor
  · intro hr n hn i hi
    have hchanged := hr.relinked h hn hi
    obtain ⟨-, -, hundefined, -⟩ := hr.linked n hchanged
    exact ⟨fun p hp => (hundefined p hp).2, hr.linksBack_eq_false h hn hi hchanged⟩
  · intro hdrives
    have hlinked : ∀ n i, n < c.netCount → c.trivialInverter s n = some i → c.LinkedBy s t n i.nmos i.pmos := fun n i hn hi =>
      h.linkedBy hn hi (hdrives n hn i hi).2.1 (hdrives n hn i hi).2.2
    refine ⟨h.nets.frame, fun n hsim => ?_, fun n hchanged => ?_, h.devices, fun d hd => ?_⟩
    · obtain ⟨-, hsome⟩ := h.of_relinked hsim
      simp [newLink, linkBy, TrivialInverter.target] at hsome
    · obtain ⟨hn, i, hi⟩ : n < c.netCount ∧ ∃ i, c.trivialInverter s n = some i := by
        rcases hchanged with hchanged | hchanged
        · exact h.exists_inverter hchanged
        · exact h.exists_inverter hchanged
      have hfound := trivialInverter_eq_some.1 hi
      exact ⟨hfound.next_self.1, hfound.next_self.2, fun p hp => ⟨hfound.minVoltage_eq hp, (hdrives n hn i hi).1 p hp⟩,
        i.nmos, i.pmos, hlinked n i hn hi⟩
    · by_contra hnot
      refine hd (h.other d ?_)
      rintro n hn ⟨i, hi, hd⟩
      exact hnot ⟨n, i.nmos, i.pmos, .inl (h.relinked_min hn hi (hdrives n hn i hi).2.1), hlinked n i hn hi, hd⟩

/-! ## A net with a max voltage -/

/-- An inverter between the powers 0 and 1 from the net 2 to the net 3. -/
def inverterDevices : List FlatDevice :=
  [{ type := .nmos, source := 0, gate := 2, drain := 3, bulk := 0 },
    { type := .pmos, source := 1, gate := 2, drain := 3, bulk := 1 }]

def inverterCircuit : FlatCircuit := .ofDevices 4 inverterDevices (by decide) false false

/-- The powers, and the definition of the output. -/
def inverterState (output : CPower) : PropagationState :=
  ⟨.ofPowers 4 inverterDevices
    [{ netId := 0, minVoltage := 0, simVoltage := 0, maxVoltage := 0, type := { powerBit := true } },
      { netId := 1, minVoltage := 1200, simVoltage := 1200, maxVoltage := 1200, type := { powerBit := true } }, output],
    .reset 2, []⟩

/-- What the loop leaves for the output, as links and max voltage. -/
theorem inverter_run (output : CPower) (next : Nat × Nat)
    (hrun : (match inverterCircuit.setTrivialMinMaxPower (inverterState output) with
      | .ok _ t => some ((t.nets.virtualNet .minQueue).next 3, (t.nets.virtualNet .maxQueue).next 3)
      | .error _ _ => none) = some next) : ∃ t, inverterCircuit.setTrivialMinMaxPower (inverterState output) = .ok ⟨⟩ t ∧
      (t.nets.virtualNet .minQueue).next 3 = next.1 ∧ (t.nets.virtualNet .maxQueue).next 3 = next.2 := by
  split at hrun
  case h_1 _ t ht =>
    obtain rfl := some.inj hrun
    exact ⟨t, ht, rfl, rfl⟩
  case h_2 => nomatch hrun

/-- An inverter between a ground and a power that are defined. -/
theorem inverter_respectsDefinitions : ∃ t, inverterCircuit.setTrivialMinMaxPower (inverterState { netId := 3 }) = .ok ⟨⟩ t ∧
    inverterCircuit.RespectsDefinitions (inverterState { netId := 3 }) t ∧ (t.nets.virtualNet .maxQueue).next 3 = 1 := by
  obtain ⟨t, hrun, -, hmax⟩ := inverter_run { netId := 3 } (0, 1) (by decide +kernel)
  refine ⟨t, hrun, (respectsDefinitions_iff _ _ _ hrun).2 fun n hn i hi => ?_, hmax⟩
  have hfound : ∀ n < 4, ∀ i ∈ inverterCircuit.trivialInverter (inverterState { netId := 3 }) n, n = 3 ∧ i = ⟨0, 1, 0, 1, 2⟩ := by
    decide +kernel
  obtain ⟨rfl, rfl⟩ := hfound n hn i hi
  refine ⟨fun p hp => ?_, by decide +kernel, by decide +kernel⟩
  have hp' : (inverterState { netId := 3 }).nets.netVoltagePtr 3 = some 2 := by decide +kernel
  obtain rfl := some.inj (hp.symm.trans hp')
  decide +kernel

/-- The output has a max voltage of 0.9 V, and its max link is set to the power of 1.2 V. -/
theorem inverter_max_relinked : ∃ t, inverterCircuit.setTrivialMinMaxPower (inverterState { netId := 3, maxVoltage := 900 }) = .ok
    ⟨⟩ t ∧
    (t.nets.virtualNet .maxQueue).next 3 = 1 ∧
    ¬ inverterCircuit.RespectsDefinitions (inverterState { netId := 3, maxVoltage := 900 }) t := by
  obtain ⟨t, hrun, -, hmax⟩ := inverter_run { netId := 3, maxVoltage := 900 } (0, 1) (by decide +kernel)
  refine ⟨t, hrun, hmax, fun hr => ?_⟩
  have hchanged : Relinked (inverterState { netId := 3, maxVoltage := 900 }) t .maxQueue 3 := by
    refine .inl ?_
    rw [hmax]
    decide +kernel
  obtain ⟨-, -, hundefined, -⟩ := hr.linked 3 (.inr hchanged)
  exact absurd (hundefined 2 (by decide +kernel)).2 (by decide +kernel)

end FlatCircuit
end Cvc
