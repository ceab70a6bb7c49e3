import Cvc.Lemmas.DualNets
import Cvc.Lib.Lockstep

/-!
# Shorted devices and their duals

A device that is already shorted goes from dual nets to dual nets (`DualSteps`) if the net that needs a connection has a known
voltage. An unknown voltage is higher than every known one, so what such a device does in the min queue and in the max queue is
not dual.
-/

namespace Cvc

open Function (update update_self update_of_ne)
open Program NetFlags CConnection NetState

/-- The flags are dual. -/
def DualStatus (t t' : NetState) : Prop := ∀ n, t'.netStatus n = (t.netStatus n).dual

/-- Two functions on nets go from dual nets to dual nets, or fail with dual flags. -/
def DualSteps (m m' : NetM Unit) (s s' : NetState) : Prop := Lockstep (fun _ _ t t' => t.IsDual t') DualStatus m m' s s'

namespace NetState.IsDual

variable {s s' : NetState} (h : s.IsDual s')
include h

theorem modifyStatus {f g : NetFlags → NetFlags} (hfg : ∀ status, g status.dual = (f status).dual) (n : Nat) :
    (s.modifyStatus n f).IsDual (s'.modifyStatus n g) :=
  { h with
    hasDual := ⟨h.hasDual.voltage, h.hasDual.pull⟩
    netStatus_eq := dual_update h.netStatus_eq hfg n }

theorem setVirtualNet (q : EventQueueType) (v : CVirtualNetVector) :
    (s.setVirtualNet q v).IsDual (s'.setVirtualNet q.dual v) := by
  refine { h with hasDual := ⟨h.hasDual.voltage, h.hasDual.pull⟩, virtualNet_eq := fun q' => ?_ }
  show update s'.virtualNet q.dual v q'.dual = update s.virtualNet q v q'
  by_cases hqueue : q' = q
  · rw [hqueue, update_self, update_self]
  · rw [update_of_ne hqueue, update_of_ne, h.virtualNet_eq]
    exact fun heq => hqueue (by rw [← q'.dual_dual, heq, q.dual_dual])

/-- A change of a power that keeps its voltages and changes what is recorded with it by a voltage that has a dual. -/
theorem modifyExtraData {f g : CExtraPowerData → CExtraPowerData} (hfg : ∀ data, g data.dual = (f data).dual)
    (hf : ∀ data, Cvc.HasDual data.pullDownVoltage ∧ Cvc.HasDual data.pullUpVoltage →
      Cvc.HasDual (f data).pullDownVoltage ∧ Cvc.HasDual (f data).pullUpVoltage) (p : Nat) :
    (s.modifyPower p (·.modifyExtraData f) (CPower.voltage_modifyExtraData · f)).IsDual
      (s'.modifyPower p (·.modifyExtraData g) (CPower.voltage_modifyExtraData · g)) := by
  refine { h with hasDual := ⟨fun p' q => ?_, fun p' data hdata => ?_⟩, power_eq := fun p' => ?_ }
  · simp only [modifyPower, setPower]
    by_cases hp : p' = p
    · rw [hp, update_self, CPower.voltage_modifyExtraData]
      exact h.hasDual.voltage p q
    · rw [update_of_ne hp]
      exact h.hasDual.voltage p' q
  · simp only [modifyPower, setPower] at hdata
    by_cases hp : p' = p
    · rw [hp, update_self] at hdata
      obtain rfl := Option.some.inj hdata
      apply hf
      cases hextra : (s.power p).extraData with
      | none => exact ⟨hasDual_unknown, hasDual_unknown⟩
      | some data => exact h.hasDual.pull p data hextra
    · rw [update_of_ne hp] at hdata
      exact h.hasDual.pull p' data hdata
  · simp only [modifyPower, setPower]
    by_cases hp : p' = p
    · rw [hp, update_self, update_self, h.power_eq]
      have hempty : CExtraPowerData.dual {} = {} := rfl
      cases hextra : (s.power p).extraData with
      | none => simp [CPower.modifyExtraData, CPower.recordDual, hextra, ← hfg, hempty]
      | some data => simp [CPower.modifyExtraData, CPower.recordDual, hextra, ← hfg]
    · rw [update_of_ne hp, update_of_ne hp, h.power_eq]

theorem dualStatus : DualStatus s s' := h.netStatus_eq

end NetState.IsDual

namespace DualSteps

variable {c : FlatCircuit} {s s' : NetState} (h : s.IsDual s')
include h

theorem setPullUp {v : Int} (hv : HasDual v) (n : Nat) : DualSteps (setPullUp n v) (setPullDown n (negate v)) s s' := by
  unfold DualSteps Lockstep Cvc.setPullUp setPullDown modifyNetPower
  rw [h.netVoltagePtr_eq]
  cases s.netVoltagePtr n with
  | none => exact h.dualStatus
  | some p =>
    exact h.modifyExtraData (f := fun data => { data with pullUpVoltage := v })
      (g := fun data => { data with pullDownVoltage := negate v }) (fun _ => rfl) (fun _ hdata => ⟨hdata.1, hv⟩) p

theorem modifyNetStatus {f g : NetFlags → NetFlags} (hfg : ∀ status, g status.dual = (f status).dual) (n : Nat) :
    DualSteps (modifyNetStatus n f) (modifyNetStatus n g) s s' := h.modifyStatus hfg n

theorem setLinkLater (q : EventQueueType) (n m r : Nat) : DualSteps (setLinkLater q n m r) (setLinkLater q.dual n m r) s s' := by
  unfold DualSteps Cvc.setLinkLater
  refine .bind (S := fun _ _ t t' => t.IsDual t') (.update ?_) fun _ _ t t' ht => ?_
  · rw [h.virtualNet_eq]
    exact h.setVirtualNet q _
  unfold Lockstep setLink
  simp only [ht.virtualNet_eq]
  cases (t.virtualNet q).set n m r (t.virtualNet q).lastUpdate with
  | none => exact ht.dualStatus
  | some v => exact ht.setVirtualNet q v

end DualSteps

/-- A relation of dual nets that reads keep. -/
structure ReadsDual (R : NetState → NetState → Prop) : Prop where
  isDual : ∀ {t t'}, R t t' → t.IsDual t'
  read : ∀ {t t'} (queue : EventQueueType) (v : CVirtualNetVector), R t t' → R (t.setVirtualNet queue v)
    (t'.setVirtualNet queue.dual v)

theorem readsDual_isDual : ReadsDual IsDual := ⟨id, fun q v h => h.setVirtualNet q v⟩

namespace ReadsDual

variable {c : FlatCircuit} {hc : c.HasDual} {s s' : NetState} {R : NetState → NetState → Prop} (hR : ReadsDual R) (h : R s s')
include hR h

theorem virtualNetAt (q : EventQueueType) (n : Nat) :
    Lockstep (fun net net' t t' => net' = net ∧ R t t') DualStatus (virtualNetAt q n) (virtualNetAt q.dual n) s s' := by
  unfold Lockstep Cvc.virtualNetAt
  rw [(hR.isDual h).virtualNet_eq]
  cases CVirtualNet.operatorCall (s.virtualNet q) n with
  | none => exact (hR.isDual h).dualStatus
  | some r => exact ⟨rfl, hR.read q r.2 h⟩

theorem finalVoltage (q : EventQueueType) (n : Nat) :
    Lockstep (fun v v' t t' => v' = negate v ∧ HasDual v ∧ R t t') DualStatus (c.finalVoltage q n false)
      ((c.dual hc).finalVoltage q.dual n false) s s' := by
  unfold FlatCircuit.finalVoltage
  refine .ite .rfl (fun _ => .pure ⟨negate_unknown.symm, hasDual_unknown, h⟩) fun _ => ?_
  refine .bind (S := fun _ _ t t' => R t t') (.read_bind ?_) fun _ _ t t' ht => ?_
  · refine .ensure ?_ h (hR.isDual h).dualStatus
    rw [id_eq, id_eq, (hR.isDual h).getEquivalentNet_eq]
  · refine .bind (virtualNetAt hR ht q n) fun net _ u u' hu => .read ?_
    obtain ⟨rfl, hu⟩ := hu
    simp only [Bool.and_false, Bool.false_and, Bool.false_eq_true]
    exact ⟨(hR.isDual hu).voltage_eq q _, (hR.isDual hu).hasDual_voltage q _, hu⟩

end ReadsDual

namespace FlatCircuit

variable {c : FlatCircuit} {hc : c.HasDual} {s s' : NetState} {d : Nat} {conn : CConnection}
  {dir : ShortDirection} {pending : Nat → Bool} {side : EstimateSide} {n p : Nat}

theorem connectEstimate_of_unknown (hunknown : conn.masterVoltage dir = unknownVoltage) :
    c.connectEstimate d conn dir side pending = pure () := by
  unfold connectEstimate
  simp only [hunknown, bne_self_eq_false, Bool.and_false, Bool.false_and, Bool.false_eq_true]
  rfl

theorem isNmos_dual (type : ModelType) : type.dual.isNmos = type.isPmos := by
  cases type <;> rfl

theorem lastConnection_dual (n : Nat) :
    (c.dual hc).lastConnection ModelType.isNmos pending n = c.lastConnection ModelType.isPmos pending n := by
  unfold lastConnection dual
  simp [isNmos_dual]

/-- A device whose slave net has a known voltage. -/
theorem connectEstimate_dual (h : s.IsDual s') (hdual : conn.HasDual) (hslave : conn.slaveVoltage dir ≠ unknownVoltage) :
    DualSteps (c.connectEstimate d conn dir .max pending) ((c.dual hc).connectEstimate d conn.dual dir .min pending) s s' := by
  have hs := hdual.slaveVoltage dir
  have hm := hdual.masterVoltage dir
  unfold DualSteps connectEstimate
  simp only [slaveVoltage_dual, masterVoltage_dual, slaveId_dual, masterId_dual]
  refine .read_bind (.ite ?_ (fun hguard => ?_) fun _ => .pure h)
  · simp [h.needsConnection_eq, h.isVerifiedPower_eq, hm.negate_eq_unknown]
  have hmaster : conn.masterVoltage dir ≠ unknownVoltage := by
    simp only [Bool.and_eq_true, bne_iff_ne] at hguard
    exact hguard.1.2
  have hgt : EstimateSide.min.Gt (negate (conn.slaveVoltage dir)) (negate (conn.masterVoltage dir)) ↔
      EstimateSide.max.Gt (conn.slaveVoltage dir) (conn.masterVoltage dir) := by
    unfold EstimateSide.Gt
    rw [negate_of_ne hslave, negate_of_ne hmaster]
    omega
  have hclear : ∀ {t t' : NetState}, t.IsDual t' → DualSteps
      (modifyNetStatus (conn.slaveId dir) (EstimateSide.setConnection false .max))
      (modifyNetStatus (conn.slaveId dir) (EstimateSide.setConnection false .min)) t t' :=
    fun ht => .modifyNetStatus (f := EstimateSide.setConnection false .max) (g := EstimateSide.setConnection false .min) ht
      (fun _ => rfl) _
  refine .bind (readsDual_isDual.finalVoltage h .minQueue _) fun v v' t t' ht => ?_
  obtain ⟨rfl, hv, ht⟩ := ht
  refine .bind (S := fun _ _ t t' => t.IsDual t') (.ensure (by rw [id_eq, id_eq, h.netVoltagePtr_eq]) ht ht.dualStatus)
    fun _ _ u u' hu => ?_
  refine .ite ?_ (fun _ => ?_) fun _ => .ite ?_ (fun _ => ?_) fun _ => .ite ?_ (fun _ => ?_) fun _ => ?_
  · rw [hgt, id_eq, id_eq, h.isHiz_eq]
    rfl
  · exact .bind (DualSteps.setPullUp hu hm _) fun _ _ _ _ hw => hclear hw
  · rw [hs.negate_inj hm, hm.negate_inj hv, id_eq, id_eq, h.needsConnection_eq]
  · exact .bind (DualSteps.setPullUp hu hm _) fun _ _ _ _ hw => hclear hw
  · have hmos : EstimateSide.min.isMos ((c.dual hc).deviceType d) = EstimateSide.max.isMos (c.deviceType d) :=
      isNmos_dual _
    rw [hmos, show (c.dual hc).lastConnection EstimateSide.min.isMos pending (conn.slaveId dir) = _ from
      lastConnection_dual _]
    rfl
  · refine .bind (DualSteps.setPullUp hu hm _) fun _ _ _ _ hw => ?_
    refine .bind (DualSteps.setLinkLater hw .maxQueue _ _ _) fun _ _ _ _ hx => ?_
    exact .when (decide_eq_decide.2 hgt.symm) (fun _ => hclear hx) hx
  · exact .pure hu

variable (c) in
/-- The slave net of a direction needs a connection but has no voltage, and the device connects it to a verified voltage that is
not ignored as that of a Hi-Z power. -/
structure ConnectsUnknown (side : EstimateSide) (s : NetState) (theConnections : CConnection) (theDirection : ShortDirection) :
    Prop where
  slave : theConnections.slaveVoltage theDirection = unknownVoltage
  master : theConnections.masterVoltage theDirection ≠ unknownVoltage
  needed : side.needsConnection (s.netStatus (theConnections.slaveId theDirection)) = true
  verified : s.isVerifiedPower (theConnections.masterNet theDirection).finalNetId = true
  readable : (c.finalVoltage? s side.dual.queue (theConnections.slaveId theDirection)).isSome = true
  hasPower : (s.netVoltagePtr (theConnections.slaveId theDirection)).isSome = true
  notIgnored : (c.leakVoltageSet && s.isHiz (theConnections.masterPower theDirection)) = false

theorem modifyNetPower_ok (hp : s.netVoltagePtr n = some p) {f : CPower → CPower}
    {h : ∀ power, (f power).queueVoltage = power.queueVoltage} : ∃ t, modifyNetPower n f h s = .ok ⟨⟩ t ∧
      t.netStatus = s.netStatus := by
  unfold modifyNetPower
  rw [hp]
  exact ⟨_, rfl, rfl⟩

theorem setPull_ok (side : EstimateSide) (v : Int) (hp : s.netVoltagePtr n = some p) :
    ∃ t, side.setPull n v s = .ok ⟨⟩ t ∧ t.netStatus = s.netStatus := by
  cases side with
  | min | max => exact modifyNetPower_ok hp

/-- An unknown voltage is higher than every known one: in the min queue the flag is cleared, in the max queue no flag is changed.
-/
theorem wp_connectEstimate_unknown {Q : Unit → NetState → Prop} {E : NetFailure → NetState → Prop}
    (hslave : conn.slaveVoltage dir = unknownVoltage) (hmaster : conn.masterVoltage dir ≤ unknownVoltage)
    (hkeep : side = .max ∨ ¬ c.ConnectsUnknown side s conn dir → ∀ t, t.netStatus = s.netStatus →
      Q ⟨⟩ t ∧ ∀ e, E e t) (hclear : side = .min → c.ConnectsUnknown side s conn dir → ∀ t, t.netStatus = update s.netStatus
      (conn.slaveId dir) (side.setConnection false (s.netStatus (conn.slaveId dir))) → Q ⟨⟩ t) :
    wp (c.connectEstimate d conn dir side pending) Q E s := by
  unfold connectEstimate
  refine wp_bind.2 (wp_read.2 (wp_ite (fun hguard => ?_) fun hguard => ?_))
  · simp only [Bool.and_eq_true, bne_iff_ne] at hguard
    obtain ⟨⟨hneeded, hknown⟩, hverified⟩ := hguard
    refine wp_bind.2 (wp_finalVoltage (fun v t hv ht => ?_) fun e hnone => ?_)
    · refine wp_bind.2 (wp_ensure (fun hsome => ?_) fun hnone => ?_)
      · obtain ⟨p, hp⟩ := Option.isSome_iff_exists.1 hsome
        rw [id_eq] at hp
        obtain ⟨u, hu, hustatus⟩ := setPull_ok side (conn.masterVoltage dir) (ht.netVoltagePtr_eq ▸ hp)
        have hstatus : u.netStatus = s.netStatus := hustatus.trans ht.netStatus_eq
        have hignored : ¬ (side.Gt (conn.slaveVoltage dir) (conn.masterVoltage dir) ∧
            (!(c.leakVoltageSet && s.isHiz (conn.masterPower dir))) = true) →
            side = .max ∨ (c.leakVoltageSet && s.isHiz (conn.masterPower dir)) = true := by
          intro hpull
          cases side with
          | max => exact .inl rfl
          | min =>
            refine .inr (eq_true_of_ne_false fun hset => hpull ⟨?_, by rw [hset]; rfl⟩)
            show conn.slaveVoltage dir > conn.masterVoltage dir
            omega
        refine wp_ite (fun hpull => ?_) fun hpull => wp_ite (fun hequal => ?_) fun _ => wp_ite (fun hlink => ?_) fun hlink => ?_
        · have hmin : side = .min := by
            cases side with
            | min => rfl
            | max =>
              have hlt : conn.slaveVoltage dir < conn.masterVoltage dir := hpull.1
              omega
          refine wp_bind.2 (wp_of_eq_ok hu (wp_update.2 (hclear hmin ?_ _ ?_)))
          · exact ⟨hslave, hknown, hneeded, hverified, by simp [hv], by simp [hp],
              eq_false_of_ne_true fun hset => by simp [hset] at hpull⟩
          · show update u.netStatus _ _ = _
            rw [hstatus]
        · exact absurd (hslave.symm.trans hequal.1).symm hknown
        · obtain rfl : side = .max := (hignored hpull).resolve_right fun hset => by
            simp only [Bool.and_eq_true] at hset
            simp [hset.1] at hlink
          refine wp_bind.2 (wp_of_eq_ok hu (wp_bind.2 ?_))
          refine wp.mono (KeepsStatus.setLinkLater _ _ _ u hstatus) (fun _ w hw => ?_) fun e w hw => ?_
          · refine wp_when (fun hlt => absurd (of_decide_eq_true hlt) ?_) fun _ => (hkeep (.inl rfl) w hw.1).1
            show ¬ conn.slaveVoltage dir < conn.masterVoltage dir
            omega
          · exact (hkeep (.inl rfl) w hw).2 e
        · refine (hkeep ((hignored hpull).imp_right fun hset h => ?_) t ht.netStatus_eq).1
          rw [h.notIgnored] at hset
          cases hset
      · refine (hkeep (.inr fun h => ?_) t ht.netStatus_eq).2 _
        rw [id_eq, h.hasPower] at hnone
        cases hnone
    · refine (hkeep (.inr fun h => ?_) s rfl).2 e
      have hreadable := h.readable
      rw [hnone] at hreadable
      cases hreadable
  · refine (hkeep (.inr fun h => hguard ?_) s rfl).1
    simp [h.needed, h.master, h.verified]

end FlatCircuit

end Cvc
