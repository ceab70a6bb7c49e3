import Cvc.Theorems.EstimateDuality

/-!
# The duality of key adjustment

`AdjustKey` of a device in the max queue is compared with `AdjustKey` of the dual device in the min queue of the dual nets, by the
key and the queue position; `IsOffMos` and `TopologicallyOffMos` by their answers.

`AdjustKey` asserts that one of the voltages of source and drain is known, but not that it is the one that the direction
propagates. An unknown voltage is higher than every known one in both queues, so the two are dual only for the direction from the
known voltage, which is the one that every caller chooses.
-/

namespace Cvc

open Program

variable {s s' : NetState}

/-- What a function on nets returns, if it does. -/
def answer {α : Type} (m : NetM α) (s : NetState) : Option α :=
  match m s with
  | .ok a _ => some a
  | .error _ _ => none

theorem answer_eq {α β : Type} {f : α → β} {m : NetM α} {m' : NetM β}
    (h : Lockstep (fun a b _ _ => b = f a) DualStatus m m' s s') : answer m' s' = (answer m s).map f := by
  unfold Lockstep at h
  unfold answer
  cases hm : m s <;> cases hm' : m' s' <;> simp_all

/-- The key and the queue position for the dual device. -/
def dualKey (r : Int × QueuePosition) : Int × QueuePosition := (-r.1, r.2)

/-- Dual nets, with the types of the devices at a net exchanged. -/
def FullDual (s s' : NetState) : Prop := s.IsDual s' ∧ ∀ n, s'.connectionCount n = (s.connectionCount n).dual

theorem readsDual_fullDual : ReadsDual FullDual := ⟨And.left, fun queue v h => ⟨h.1.setVirtualNet queue v, h.2⟩⟩

theorem HasDualKey.ne_unknown {v : Int} (h : HasDualKey v) : v ≠ unknownVoltage := by
  rintro rfl
  exact absurd h (by decide)

namespace FlatCircuit

variable {c : FlatCircuit} {hc : c.HasDual} (h : FullDual s s') {d : Nat} {t : CConnection} {v : Int} (hv : v ≠ unknownVoltage)
  (hvth : HasDualKey (c.vth t.deviceId)) (k : Int)

theorem vth_dual (hvth : HasDualKey (c.vth d)) : (c.dual hc).vth d = -c.vth d := negate_of_ne hvth.ne_unknown

section

include h hv hvth

theorem adjustMaxPmosKey_dual (hbulk : Cvc.HasDual t.bulkVoltage) (n : Nat) (pos : QueuePosition) :
    (c.dual hc).adjustMinNmosKey s' t.dual n (negate v) (-k) pos = dualKey (c.adjustMaxPmosKey s t n v k pos) := by
  have hcount : (s'.connectionCount n).sourceDrainType .pmos = (s.connectionCount n).sourceDrainType .nmos := by
    rw [h.2]
    rfl
  have hlow : (negate t.bulkVoltage = unknownVoltage ∨ negate v < negate t.bulkVoltage) ↔
      t.bulkVoltage = unknownVoltage ∨ v > t.bulkVoltage := by
    rw [hbulk.negate_eq_unknown]
    by_cases hknown : t.bulkVoltage = unknownVoltage
    · simp [hknown]
    · rw [negate_of_ne hv, negate_of_ne hknown]
      omega
  unfold adjustMinNmosKey adjustMaxPmosKey adjustDiodeKey CConnection.dual
  simp only [vth_dual hvth, hcount, hlow]
  split
  · simp only [dualKey, Prod.mk.injEq, and_true]
    split <;> split <;> omega
  · split <;> rfl

theorem adjustMaxNmosKey_dual {simGate : Int} (hsim : Cvc.HasDual simGate) :
    Lockstep (fun r r' _ _ => r' = dualKey r) DualStatus (c.adjustMaxNmosKey t simGate v k)
      ((c.dual hc).adjustMinPmosKey t.dual (negate simGate) (negate v) (-k)) s s' := by
  unfold adjustMaxNmosKey adjustMinPmosKey adjustGateKey
  simp only [CConnection.dual, vth_dual hvth]
  refine .ite ?_ (fun _ => .bind (readsDual_fullDual.finalVoltage h .maxQueue _) ?_) fun _ =>
    .bind (S := fun w w' u u' => w' = negate w ∧ Cvc.HasDual w ∧ FullDual u u') (.pure ⟨rfl, hsim, h⟩) ?_
  · show _ ↔ (!c.isFixedSimNet || negate simGate == unknownVoltage) = true
    simp [hsim.negate_eq_unknown]
  -- the same comparisons follow, whichever voltage the gate has
  all_goals
    rintro w _ u u' ⟨rfl, hw, hu⟩
    have hcount : (u'.connectionCount t.gateId).sourceDrainCount = (u.connectionCount t.gateId).sourceDrainCount := by
      rw [hu.2]
      rfl
    refine .ite hw.negate_eq_unknown.symm (fun _ => .read ?_) fun hknown => ?_
    · rw [hcount]
      split
      · simp only [dualKey, Prod.mk.injEq, and_true]
        split <;> split <;> omega
      · rfl
    · rw [negate_of_ne hknown, negate_of_ne hv]
      refine .ite (by omega) (fun _ => .pure ?_) fun _ => .pure rfl
      simp only [dualKey, Prod.mk.injEq, and_true]
      omega

end

section

include h

theorem adjustKey_lockstep (ht : t.HasDual) (hvth : HasDualKey (c.vth t.deviceId)) (pos : QueuePosition) (dir : ShortDirection)
    (hmaster : t.masterVoltage dir ≠ unknownVoltage) :
    Lockstep (fun r r' _ _ => r' = dualKey r) DualStatus (c.adjustKey .maxQueue d t k pos dir)
      ((c.dual hc).adjustKey .minQueue d t.dual (-k) pos dir) s s' := by
  have hmos : ((c.dual hc).deviceType d).isMos = (c.deviceType d).isMos := by
    show (c.deviceType d).dual.isMos = _
    cases c.deviceType d <;> rfl
  have hfuse : ((c.dual hc).deviceType d).isFuse = (c.deviceType d).isFuse := by
    show (c.deviceType d).dual.isFuse = _
    cases c.deviceType d <;> rfl
  have hnmos : ((c.dual hc).deviceType d).isNmos = (c.deviceType d).isPmos := isNmos_dual _
  refine .bind (S := fun _ _ u u' => FullDual u u') (.ensure ?_ h h.1.dualStatus) fun _ _ u u' hu => ?_
  · rw [Bool.eq_iff_iff]
    simp [isAdjustable, CConnection.dual, ht.sourceVoltage.negate_eq_unknown, ht.drainVoltage.negate_eq_unknown]
  rw [hmos, hfuse]
  refine .ite .rfl (fun _ => ?_) fun _ => .pure rfl
  refine .bind (S := fun power power' u u' => power' = power.recordDual ∧ FullDual u u') ?_ ?_
  · rw [CConnection.masterPower_dual]
    cases t.masterPower dir with
    | none => exact hu.1.dualStatus
    | some p => exact ⟨hu.1.power_eq p, hu⟩
  rintro power _ u u' ⟨rfl, hu⟩
  unfold adjustMosKey
  simp only [CConnection.masterVoltage_dual, hnmos]
  refine .ite .rfl (fun _ => ?_) fun _ => ?_
  · exact .ite .rfl (fun _ => .pure rfl) fun _ => .read (adjustMaxPmosKey_dual hu hmaster hvth k ht.bulkVoltage _ _)
  · refine .ite .rfl (fun _ => .pure rfl) fun _ => ?_
    refine .bind (readsDual_fullDual.finalVoltage hu .simQueue t.gateId) ?_
    rintro simGate _ w w' ⟨rfl, hsim, hw⟩
    exact adjustMaxNmosKey_dual hw hmaster hvth k hsim

theorem isOffAtVoltage_lockstep (hvth : HasDualKey (c.vth d)) (hk : HasDualKey k) :
    Lockstep (fun b b' _ _ => b' = b) DualStatus (c.isOffAtVoltage .maxQueue d t k)
      ((c.dual hc).isOffAtVoltage .minQueue d t.dual (-k)) s s' := by
  have hnmos : ((c.dual hc).deviceType d).isNmos = (c.deviceType d).isPmos := isNmos_dual _
  refine .ite ?_ (fun _ => ?_) fun _ => .pure rfl
  · simp [CConnection.dual, hk.negate_eq]
  · cases hpmos : (c.deviceType d).isPmos with
    | false => simpa [hnmos, hpmos] using .pure rfl
    | true =>
      simp only [hnmos, hpmos]
      refine .bind (readsDual_fullDual.finalVoltage h .minQueue t.gateId) ?_
      rintro gate _ u u' ⟨rfl, hgate, -⟩
      refine .pure ?_
      rw [vth_dual hvth]
      by_cases hknown : gate = unknownVoltage
      · simp [hknown, negate_unknown]
      · rw [Bool.eq_iff_iff]
        simp only [Bool.and_eq_true, bne_iff_ne, ne_eq, hgate.negate_eq_unknown, decide_eq_true_eq]
        rw [negate_of_ne hknown]
        omega

end

theorem topologicallyOffMos_dual (ht : t.HasDual) (type : ModelType) :
    topologicallyOffMos .minQueue type.dual t.dual = topologicallyOffMos .maxQueue type t := by
  unfold topologicallyOffMos
  simp only [CConnection.dual, ht.drainVoltage.negate_eq_unknown, ht.sourceVoltage.beq_unknown]
  cases type <;> rfl

/-- The key adjustment and the tests for transistors that are off are dual, for a direction from a known voltage. -/
theorem adjustKey_dual (c : FlatCircuit) (hc : c.HasDual) (s : NetState) (hs : s.HasDual) (d : Nat)
    (t : CConnection) (ht : t.HasDual)
    (hid : t.deviceId = d) (hvth : HasDualKey (c.vth d)) :
    (∀ dir k pos, t.masterVoltage dir ≠ unknownVoltage →
      answer ((c.dual hc).adjustKey .minQueue d t.dual (-k) pos dir) (s.dual hs) =
      (answer (c.adjustKey .maxQueue d t k pos dir) s).map dualKey) ∧
    (∀ v, HasDualKey v → answer ((c.dual hc).isOffMos .minQueue d t.dual (-v))
      (s.dual hs) = answer (c.isOffMos .maxQueue d t v) s) ∧
    topologicallyOffMos .minQueue (c.deviceType d).dual t.dual = topologicallyOffMos .maxQueue (c.deviceType d) t := by
  have h : FullDual s (s.dual hs) := ⟨s.isDual_dual hs, fun _ => rfl⟩
  have htop := topologicallyOffMos_dual ht (c.deviceType d)
  refine ⟨fun dir k pos hmaster => answer_eq (adjustKey_lockstep h k ht (hid ▸ hvth) pos dir hmaster), fun v hv => ?_, htop⟩
  refine (answer_eq (f := id) ?_).trans (congrFun Option.map_id _)
  refine .ite (by rw [← htop]; rfl) (fun _ => .pure rfl) fun _ => ?_
  refine .bind (S := fun b b' _ _ => b' = b) (isOffAtVoltage_lockstep h v hvth hv) ?_
  rintro off _ u u' rfl
  exact .ite .rfl (fun _ => .pure rfl) fun _ => .pure rfl

/-- The diode of a power that passes its voltage on. -/
theorem pulled_adjustKey_dual : pulledCircuit.HasDual ∧ pulledState.HasDual ∧
    ∃ t u, pulledCircuit.mapDeviceNets .maxQueue 0 pulledState = .ok t u ∧
    answer ((pulledCircuit.dual pulledCircuit_hasDual).adjustKey .minQueue 0 { t with sourceVoltage :=
      unknownVoltage }.dual (-1000) .mainBack
        .sourceToMasterDrain) (pulledState.dual pulledState_hasDual) =
      (answer (pulledCircuit.adjustKey .maxQueue 0 { t with sourceVoltage := unknownVoltage } 1000 .mainBack .sourceToMasterDrain)
        pulledState).map dualKey :=
  ⟨pulledCircuit_hasDual, pulledState_hasDual, _, _, rfl,
    (adjustKey_dual pulledCircuit pulledCircuit_hasDual pulledState pulledState_hasDual 0
      _ (by constructor <;> decide) rfl (by decide)).1
      _ _ _ (by decide)⟩

/-- From the side with no voltage, the key of the max queue is limited by the gate, and that of the dual is the unknown voltage.
-/
theorem pulled_adjustKey_not_dual : pulledCircuit.HasDual ∧ pulledState.HasDual ∧
    ∃ t u, pulledCircuit.mapDeviceNets .maxQueue 0 pulledState = .ok t u ∧ { t with sourceVoltage := unknownVoltage }.HasDual ∧
      answer (pulledCircuit.adjustKey .maxQueue 0 { t with sourceVoltage := unknownVoltage } 1000 .mainBack .drainToMasterSource)
        pulledState =
        some (600, .delayBack) ∧
      answer ((pulledCircuit.dual pulledCircuit_hasDual).adjustKey .minQueue 0 { t with sourceVoltage :=
        unknownVoltage }.dual (-1000) .mainBack
        .drainToMasterSource) (pulledState.dual pulledState_hasDual) = some (32767, .delayBack) :=
  ⟨pulledCircuit_hasDual, pulledState_hasDual, _, _, rfl, by constructor <;> decide, by decide, by decide⟩

end FlatCircuit
end Cvc
