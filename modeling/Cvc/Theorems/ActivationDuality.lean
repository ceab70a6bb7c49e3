import Cvc.Theorems.EstimateDuality

/-!
# The duality of activated powers

A device between two voltages activates the min voltage of an idle power if the min voltage on its other side is not above it, and
the max voltage if the max voltage on its other side is not below it. An unknown voltage, of a Hi-Z power on the second pass, is
above every known one in both comparisons. So a power and its dual are activated together exactly when the two voltages are both
known or both unknown.
-/

namespace Cvc

open Program

namespace FlatCircuit

variable {c : FlatCircuit} {s s' : NetState} {q : EventQueueType} {t : CConnection} {d : Nat}

/-- The voltage of a power is idle. -/
def idle (s : NetState) (queue : EventQueueType) (thePower : Option Nat) : Option Nat :=
    thePower.filter fun p => (s.power p).isIdle queue

/-- A power is activated if the other side of the device does not go beyond its voltage. -/
def activated (queue : EventQueueType) (p n : Nat) (v other : Int) : Option (Nat × Nat × Int) :=
  match queue with
  | .minQueue => if other ≤ v then some (p, n, v) else none
  | _ => if v ≤ other then some (p, n, v) else none

/-- The power that `VoltageConflict` activates, the net whose devices it enqueues and their key. -/
def activation (c : FlatCircuit) (s : NetState) (queue : EventQueueType) (d : Nat) (t : CConnection) : Option (Nat × Nat × Int) :=
  if !c.isConflict s queue d t then none
  else
    match idle s queue t.drainPower with
    | some p => activated queue p t.drainId t.drainVoltage t.sourceVoltage
    | none => (idle s queue t.sourcePower).bind fun p => activated queue p t.sourceId t.sourceVoltage t.drainVoltage

/-- What `VoltageConflict` does to activate a power. -/
def activate (c : FlatCircuit) (queue : EventQueueType) : Option (Nat × Nat × Int) → DbM Unit
  | none => pure ()
  | some (p, n, v) => do
    onNets (update fun s => s.modifyPower p (·.activate queue) fun power => power.voltage_activate queue)
    c.enqueueAttachedDevices queue n v

theorem activatePower_some (p n : Nat) (v other : Int) : c.activatePower q (some p) n v other =
    c.activate q (activated q p n v other) := by
  unfold activatePower activated Program.when
  cases q with
  | minQueue => by_cases h : other ≤ v <;> simp [h] <;> rfl
  | simQueue | maxQueue => by_cases h : v ≤ other <;> simp [h] <;> rfl

theorem idle_cases (s : NetState) (q : EventQueueType) (thePower : Option Nat) :
    (∃ p, thePower = some p ∧ idle s q thePower = some p ∧ thePower.any (fun p => (s.power p).isIdle q) = true) ∨
      idle s q thePower = none ∧ thePower.any (fun p => (s.power p).isIdle q) = false := by
  unfold idle
  cases thePower with
  | none => exact .inr ⟨rfl, rfl⟩
  | some p => cases hidle : (s.power p).isIdle q <;> simp

/-- `VoltageConflict` activates the power of `activation`. -/
theorem activateVoltages_eq {u : PropagationState} (h : c.isConflict u.nets q d t = true) :
    c.activateVoltages q t u = c.activate q (c.activation u.nets q d t) u := by
  show (if t.drainPower.any (fun p => (u.nets.power p).isIdle q) then _ else Program.when (t.sourcePower.any _) _ : DbM Unit) u =
    _
  unfold activation
  rw [h]
  obtain ⟨p, hpower, hidle, hany⟩ | ⟨hidle, hany⟩ := idle_cases u.nets q t.drainPower
  · rw [hidle, if_pos hany, hpower, activatePower_some]
    rfl
  rw [hidle, if_neg (by rw [hany]; exact Bool.false_ne_true)]
  obtain ⟨p, hpower, hidle, hany⟩ | ⟨hidle, hany⟩ := idle_cases u.nets q t.sourcePower
  · rw [hidle, hany, hpower, activatePower_some]
    rfl
  · rw [hidle, hany]
    rfl

/-! ## The dual device -/

theorem isIdle_recordDual (power : CPower) (hv : Cvc.HasDual power.minVoltage) :
    power.recordDual.isIdle .maxQueue = power.isIdle .minQueue := by
  show (negate power.minVoltage != unknownVoltage && _ && _) = _
  rw [bne, hv.beq_unknown]
  rfl

theorem idle_dual (h : s.IsDual s') (thePower : Option Nat) : idle s' .maxQueue thePower = idle s .minQueue thePower := by
  unfold idle
  simp only [h.power_eq]
  congr 1
  exact funext fun p => isIdle_recordDual _ (h.hasDual.voltage p .minQueue)

theorem isConflict_dual {hc : c.HasDual} (h : s.IsDual s') (ht : t.HasDual) :
    (c.dual hc).isConflict s' .maxQueue d t.dual = c.isConflict s .minQueue d t := by
  unfold isConflict NetState.isUnknownSourceVoltage NetState.isUnknownDrainVoltage CConnection.dual
  simp only [ht.sourceVoltage.beq_unknown, ht.drainVoltage.beq_unknown, h.isHiz_eq]
  rfl

theorem activated_dual_iff {p n : Nat} {v other : Int} (hv : Cvc.HasDual v) (hother : Cvc.HasDual other) :
    activated .maxQueue p n (negate v)
      (negate other) = (activated .minQueue p n v other).map (fun a => (a.1, a.2.1, negate a.2.2)) ↔
      (other = unknownVoltage ↔ v = unknownVoltage) := by
  unfold Cvc.HasDual Cvc.maxVoltage at hv hother
  show (if negate v ≤ negate other then _ else _) = Option.map _ (if other ≤ v then _ else _) ↔ _
  by_cases hv : v = unknownVoltage <;> by_cases hother : other = unknownVoltage
  · simp [hv, hother]
  · rw [hv, negate_unknown, negate_of_ne hother, if_neg (by omega), if_pos (by omega)]
    simp [hother]
  · rw [hother, negate_unknown, negate_of_ne hv, if_pos (by omega), if_neg (by omega)]
    simp [hv]
  · by_cases hle : other ≤ v <;> simp [hv, hother, negate_of_ne]

/-- An idle power and its dual are activated together exactly when the voltages of the device are known or unknown together. -/
theorem activation_dual_iff (c : FlatCircuit) (hc : c.HasDual) (s : NetState) (hs : s.HasDual) (d : Nat)
    (t : CConnection) (ht : t.HasDual) :
    (c.dual hc).activation (s.dual hs) .maxQueue d t.dual =
        (c.activation s .minQueue d t).map (fun a => (a.1, a.2.1, negate a.2.2)) ↔
      (c.isConflict s .minQueue d t = true → (idle s .minQueue t.drainPower).isSome ∨ (idle s .minQueue t.sourcePower).isSome →
        (t.sourceVoltage = unknownVoltage ↔ t.drainVoltage = unknownVoltage)) := by
  have h := s.isDual_dual hs
  unfold activation
  rw [isConflict_dual h ht]
  show (if _ then _ else match idle _ _ t.drainPower with | some p => _ | none => _) = _ ↔ _
  rw [idle_dual h t.drainPower]
  cases c.isConflict s .minQueue d t with
  | false => simp
  | true =>
    cases idle s .minQueue t.drainPower with
    | some p => exact (activated_dual_iff ht.drainVoltage ht.sourceVoltage).trans (by simp)
    | none =>
      show (idle _ _ t.sourcePower).bind _ = _ ↔ _
      rw [idle_dual h t.sourcePower]
      cases idle s .minQueue t.sourcePower with
      | some p => exact (activated_dual_iff ht.sourceVoltage ht.drainVoltage).trans (by simp [iff_comm])
      | none => simp

/-! ## A resistor between two powers -/

/-- A resistor between the nets of two powers, of which one is Hi-Z, on the second pass. -/
def switchedDevices : List FlatDevice := [{ type := .resistor, source := 0, drain := 1 }]

def switchedCircuit : FlatCircuit := .ofDevices 2 switchedDevices (by decide) true true

def switchedState : NetState :=
  .ofPowers 2 switchedDevices
    [{ netId := 0, type := { powerBit := true, hizBit := true } }, { netId := 1, minVoltage := 1000 }]

theorem switchedCircuit_hasDual : switchedCircuit.HasDual := by
  intro d
  cases d <;> exact (by decide : Cvc.HasDual (int16 0))

theorem switchedState_hasDual : switchedState.HasDual where
  voltage p q :=
    match p with
    | 0 => by cases q <;> decide
    | 1 => by cases q <;> decide
    | p + 2 => by cases q <;> exact (by decide : Cvc.HasDual (int16 unknownVoltage))
  pull p data hdata :=
    match p with
    | 0 => nomatch hdata
    | 1 => nomatch hdata
    | p + 2 => nomatch hdata

/-- A transistor between two known voltages, on the first pass. -/
theorem pulled_activation_dual : pulledCircuit.HasDual ∧ pulledState.HasDual ∧
    ∃ t u, pulledCircuit.mapDeviceNets .minQueue 0 pulledState = .ok t u ∧
    (pulledCircuit.dual pulledCircuit_hasDual).activation (pulledState.dual pulledState_hasDual) .maxQueue 0 t.dual =
      (pulledCircuit.activation pulledState .minQueue 0 t).map fun a => (a.1, a.2.1, negate a.2.2) := by
  refine ⟨pulledCircuit_hasDual, pulledState_hasDual, _, _, rfl, ?_⟩
  exact (activation_dual_iff pulledCircuit pulledCircuit_hasDual pulledState pulledState_hasDual 0
    _ (by constructor <;> decide)).2
    fun _ _ => by decide

/-- The voltage of a power next to a Hi-Z power is activated in the max queue of the dual only. -/
theorem switched_activation_not_dual : switchedCircuit.HasDual ∧ switchedState.HasDual ∧
    ∃ t u, switchedCircuit.mapDeviceNets .minQueue 0 switchedState = .ok t u ∧ t.HasDual ∧
      switchedCircuit.activation switchedState .minQueue 0 t = none ∧
      (switchedCircuit.dual switchedCircuit_hasDual).activation (switchedState.dual switchedState_hasDual) .maxQueue 0 t.dual =
        some (1, 1, -1000) :=
  ⟨switchedCircuit_hasDual, switchedState_hasDual, _, _, rfl, by constructor <;> decide, by decide, by decide⟩

end FlatCircuit
end Cvc
