import Cvc.Dual
import Cvc.Lemmas.EstimateFlags

/-!
# The dual of the nets

The dual of the nets in the course of a propagation has every known voltage negated and min exchanged with max: the voltages, the
links, the flags and the recorded pull voltages. What is read from it is dual as well, and so is what an estimate or a check does
to the flags, up to the test of the pull voltage: the accessor of the pull-up voltage returns the pull-down voltage.
-/

namespace Cvc

open Function (update update_self update_of_ne)
open Program NetFlags NetState

variable {v k : Int} {netStatus : Nat → NetFlags}

def EventQueueType.dual : EventQueueType → EventQueueType
  | .minQueue => .maxQueue
  | .simQueue => .simQueue
  | .maxQueue => .minQueue

def NetFlags.dual (status : NetFlags) : NetFlags where
  needsMinCheck := status.needsMaxCheck
  needsMaxCheck := status.needsMinCheck
  needsMinConnection := status.needsMaxConnection
  needsMaxConnection := status.needsMinConnection

def CalculationType.dual : CalculationType → CalculationType
  | .upCalculation => .downCalculation
  | .downCalculation => .upCalculation
  | type => type

def PowerActive.dual (active : PowerActive) : PowerActive where
  minActive := active.maxActive
  maxActive := active.minActive
  minIgnore := active.maxIgnore
  maxIgnore := active.minIgnore

def CExtraPowerData.dual (data : CExtraPowerData) : CExtraPowerData :=
  { data with
    expectedMin := data.expectedMax
    expectedMax := data.expectedMin
    pullDownVoltage := negate data.pullUpVoltage
    pullUpVoltage := negate data.pullDownVoltage }

/-- The dual of a power and of what is recorded with it. -/
def CPower.recordDual (power : CPower) : CPower :=
  { power.dual with
    extraData := power.extraData.map CExtraPowerData.dual
    active := power.active.dual
    minCalculationType := power.maxCalculationType.dual
    simCalculationType := power.simCalculationType.dual
    maxCalculationType := power.minCalculationType.dual }

def CConnectionCount.dual (count : CConnectionCount) : CConnectionCount :=
  { count with sourceDrainType := fun type => count.sourceDrainType type.dual }

@[simp] theorem EventQueueType.dual_dual (q : EventQueueType) : q.dual.dual = q := by cases q <;> rfl

theorem CPower.queueVoltage_recordDual (power : CPower) (q : EventQueueType) :
    power.recordDual.queueVoltage q.dual = negate (power.queueVoltage q) := by
  cases q <;> rfl

theorem HasDual.isVoltage_negate (h : HasDual v) : IsVoltage (negate v) := by
  unfold HasDual negate IsVoltage maxVoltage unknownVoltage at *
  split <;> omega

theorem HasDual.le_unknown (h : HasDual v) : v ≤ unknownVoltage := by
  unfold HasDual maxVoltage at h
  omega

namespace NetState

/-- The voltages and the recorded pull voltages have duals. -/
structure HasDual (s : NetState) : Prop where
  voltage : ∀ p queue, Cvc.HasDual ((s.power p).queueVoltage queue)
  pull : ∀ p data, (s.power p).extraData = some data → Cvc.HasDual data.pullDownVoltage ∧ Cvc.HasDual data.pullUpVoltage

/-- The dual of the nets. -/
def dual (s : NetState) (hs : s.HasDual) : NetState where
  power p := (s.power p).recordDual
  isVoltage p queue := by
    have h := (s.power p).queueVoltage_recordDual queue.dual
    rw [queue.dual_dual] at h
    rw [h]
    exact (hs.voltage p queue.dual).isVoltage_negate
  powerCount := s.powerCount
  cvcPowerPtrList := s.cvcPowerPtrList
  netVoltagePtr := s.netVoltagePtr
  leakVoltagePtr := s.leakVoltagePtr
  virtualNet queue := s.virtualNet queue.dual
  netStatus n := (s.netStatus n).dual
  connectionCount n := (s.connectionCount n).dual
  minConnectionDependencyMap := s.maxConnectionDependencyMap
  maxConnectionDependencyMap := s.minConnectionDependencyMap

end NetState

namespace FlatCircuit

/-- The thresholds have duals. -/
def HasDual (c : FlatCircuit) : Prop := ∀ d, Cvc.HasDual (c.vth d)

/-- The dual of a circuit. -/
def dual (c : FlatCircuit) (hc : c.HasDual) : FlatCircuit :=
  { c with
    deviceType := fun d => (c.deviceType d).dual
    vth := fun d => negate (c.vth d)
    vth_isVoltage := fun d => (hc d).isVoltage_negate
    leakNet := fun queue => c.leakNet queue.dual }

end FlatCircuit

namespace CConnection

/-- The voltages of a device have duals. -/
structure HasDual (theConnections : CConnection) : Prop where
  sourceVoltage : Cvc.HasDual theConnections.sourceVoltage
  gateVoltage : Cvc.HasDual theConnections.gateVoltage
  drainVoltage : Cvc.HasDual theConnections.drainVoltage
  bulkVoltage : Cvc.HasDual theConnections.bulkVoltage

def dual (theConnections : CConnection) : CConnection :=
  { theConnections with
    sourceVoltage := negate theConnections.sourceVoltage
    gateVoltage := negate theConnections.gateVoltage
    drainVoltage := negate theConnections.drainVoltage
    bulkVoltage := negate theConnections.bulkVoltage }

variable (conn : CConnection) (dir : ShortDirection)

@[simp] theorem slaveVoltage_dual : conn.dual.slaveVoltage dir = negate (conn.slaveVoltage dir) := by
  cases dir <;> rfl

@[simp] theorem masterVoltage_dual : conn.dual.masterVoltage dir = negate (conn.masterVoltage dir) := by
  cases dir <;> rfl

@[simp] theorem slaveId_dual : conn.dual.slaveId dir = conn.slaveId dir := by
  cases dir <;> rfl

@[simp] theorem masterId_dual : conn.dual.masterId dir = conn.masterId dir := by
  cases dir <;> rfl

@[simp] theorem masterNet_dual : conn.dual.masterNet dir = conn.masterNet dir := by
  cases dir <;> rfl

@[simp] theorem masterPower_dual : conn.dual.masterPower dir = conn.masterPower dir := by
  cases dir <;> rfl

variable {conn} (h : conn.HasDual)
include h

theorem HasDual.slaveVoltage : Cvc.HasDual (conn.slaveVoltage dir) := by
  cases dir with
  | drainToMasterSource => exact h.drainVoltage
  | sourceToMasterDrain => exact h.sourceVoltage

theorem HasDual.masterVoltage : Cvc.HasDual (conn.masterVoltage dir) := by
  cases dir with
  | drainToMasterSource => exact h.sourceVoltage
  | sourceToMasterDrain => exact h.drainVoltage

end CConnection

/-! ## Reads of the dual -/

/-- Nets whose reads are dual. -/
structure NetState.IsDual (s s' : NetState) : Prop where
  hasDual : s.HasDual
  power_eq : ∀ p, s'.power p = (s.power p).recordDual
  netVoltagePtr_eq : s'.netVoltagePtr = s.netVoltagePtr
  leakVoltagePtr_eq : s'.leakVoltagePtr = s.leakVoltagePtr
  virtualNet_eq : ∀ queue, s'.virtualNet queue.dual = s.virtualNet queue
  netStatus_eq : ∀ n, s'.netStatus n = (s.netStatus n).dual

theorem NetState.isDual_dual (s : NetState) (hs : s.HasDual) : s.IsDual (s.dual hs) where
  hasDual := hs
  power_eq _ := rfl
  netVoltagePtr_eq := rfl
  leakVoltagePtr_eq := rfl
  virtualNet_eq q := congrArg s.virtualNet q.dual_dual
  netStatus_eq _ := rfl

theorem hasDual_unknown : HasDual unknownVoltage := .inl rfl

namespace NetState.IsDual

variable {c : FlatCircuit} (hc : c.HasDual) {s s' : NetState} (h : s.IsDual s') (q : EventQueueType) (n : Nat)
include h

theorem voltage_eq : s'.voltage q.dual n = negate (s.voltage q n) := by
  unfold voltage
  rw [h.netVoltagePtr_eq]
  split
  · exact negate_unknown.symm
  · cases s.netVoltagePtr n with
    | none => exact negate_unknown.symm
    | some p => simp only [h.power_eq, CPower.queueVoltage_recordDual]

theorem hasDual_voltage : Cvc.HasDual (s.voltage q n) := by
  unfold voltage
  split
  · exact hasDual_unknown
  · cases s.netVoltagePtr n with
    | none => exact hasDual_unknown
    | some p => exact h.hasDual.voltage p q

theorem isHiz_eq (thePower : Option Nat) : s'.isHiz thePower = s.isHiz thePower := by
  cases thePower with
  | none => rfl
  | some p =>
    simp only [isHiz, h.power_eq]
    rfl

theorem needsConnection_eq :
    EstimateSide.min.needsConnection (s'.netStatus n) = EstimateSide.max.needsConnection (s.netStatus n) := by
  rw [h.netStatus_eq]
  rfl

theorem isVerifiedPower_eq : s'.isVerifiedPower n = s.isVerifiedPower n := by
  unfold isVerifiedPower
  rw [h.netStatus_eq]
  cases s.netStatus n
  simp only [NetFlags.dual]
  grind

theorem getEquivalentNet_eq : (c.dual hc).getEquivalentNet s' n = c.getEquivalentNet s n := by
  unfold FlatCircuit.getEquivalentNet
  rw [h.netVoltagePtr_eq]
  split
  · rfl
  have hnet : (c.dual hc).equivalentNet n = c.equivalentNet n := rfl
  rw [hnet]
  cases s.netVoltagePtr (c.equivalentNet n) with
  | none => rfl
  | some p =>
    simp only [h.power_eq]
    rfl

theorem virtualNet?_eq : s'.virtualNet? q.dual n = s.virtualNet? q n := by
  unfold virtualNet?
  rw [h.virtualNet_eq]

theorem finalVoltage?_eq : (c.dual hc).finalVoltage? s' q.dual n = (c.finalVoltage? s q n).map negate := by
  unfold FlatCircuit.finalVoltage?
  rw [h.getEquivalentNet_eq, h.virtualNet?_eq]
  split
  · rw [Option.map_some, negate_unknown]
  split
  · rw [Option.map_map]
    exact congrArg (fun f => Option.map f _) (funext fun net => h.voltage_eq q net.finalNetId)
  · rfl

theorem isFloating?_eq : (c.dual hc).isFloating? s' q.dual n = c.isFloating? s q n := by
  unfold FlatCircuit.isFloating?
  rw [h.getEquivalentNet_eq, h.virtualNet?_eq, h.netVoltagePtr_eq]
  split
  · exact congrArg (fun f => Option.map f _) (funext fun net => h.isHiz_eq _)
  · rfl

theorem leakVoltage?_eq : (c.dual hc).leakVoltage? s' q.dual n = (c.leakVoltage? s q n).map negate := by
  unfold FlatCircuit.leakVoltage?
  rw [h.getEquivalentNet_eq, h.leakVoltagePtr_eq]
  show (if (_ || !c.leakVoltageSet) = true then _ else _) = _
  split
  · rw [Option.map_some, negate_unknown]
  split
  · have hnet : (c.dual hc).leakNet q.dual n = c.leakNet q n := congrArg (c.leakNet · n) q.dual_dual
    rw [hnet, Option.map_some]
    cases (c.leakNet q n).bind s.leakVoltagePtr with
    | none => rw [negate_unknown]
    | some p => simp only [h.power_eq, CPower.queueVoltage_recordDual]
  · rfl

end NetState.IsDual

/-! ## Changes of the flags -/

/-- A key whose negative is a key: a known voltage that has a dual. -/
def HasDualKey (v : Int) : Prop := -maxVoltage ≤ v ∧ v ≤ maxVoltage
  deriving Decidable

theorem HasDualKey.negate_eq (hk : HasDualKey k) : negate v = -k ↔ v = k := by
  have hunknown : unknownVoltage = 32767 := rfl
  unfold HasDualKey maxVoltage at hk
  unfold negate
  split <;> omega

theorem EstimateSide.le_negate (hv : v ≠ unknownVoltage) : EstimateSide.max.Le (negate v) (-k) ↔ EstimateSide.min.Le v k := by
  unfold EstimateSide.Le
  rw [negate_of_ne hv]
  omega

theorem EstimateSide.lt_negate (hv : v ≠ unknownVoltage) : EstimateSide.max.Lt (negate v) (-k) ↔ EstimateSide.min.Lt v k := by
  unfold EstimateSide.Lt
  rw [negate_of_ne hv]
  omega

theorem EstimateSide.suppresses_negate (hv : HasDual v) :
    EstimateSide.max.Suppresses (negate v) (-k) ↔ EstimateSide.min.Suppresses v k := by
  unfold EstimateSide.Suppresses
  by_cases h : v = unknownVoltage
  · simp [h, negate_unknown]
  · simp [EstimateSide.le_negate h, hv.negate_eq_unknown]

theorem NetFlags.dual_inj {status other : NetFlags} : status.dual = other.dual ↔ status = other := by
  constructor
  · intro h
    obtain ⟨hmaxCheck, hminCheck, hmaxConnection, hminConnection⟩ := mk.inj h
    cases status
    cases other
    simp_all
  · exact congrArg dual

theorem NetFlags.setConnection_dual (set : Bool) (status : NetFlags) :
    EstimateSide.max.setConnection set status.dual = (EstimateSide.min.setConnection set status).dual := rfl

section
variable {netStatus' : Nat → NetFlags} (h : ∀ n, netStatus' n = (netStatus n).dual)
include h

theorem NetFlags.dual_update {f g : NetFlags → NetFlags}
    (hfg : ∀ status, g status.dual = (f status).dual) (d n : Nat) :
    update netStatus' d (g (netStatus' d)) n = (update netStatus d (f (netStatus d)) n).dual := by
  by_cases hn : n = d
  · rw [hn, update_self, update_self, h, hfg]
  · rw [update_of_ne hn, update_of_ne hn, h]

theorem FlagChange.apply_dual (change : FlagChange)
    (n : Nat) : change.apply .max netStatus' n = (change.apply .min netStatus n).dual := by
  cases change with
  | keep => exact h n
  | setConnection d => exact dual_update h (setConnection_dual true) d n
  | setCheck d => exact dual_update h (f := EstimateSide.min.setCheck true) (fun _ => rfl) d n
  | clearConnections d e =>
    exact dual_update (dual_update h (setConnection_dual false) d) (setConnection_dual false) e n

end

namespace NetState

/-- What is recorded with the power of a net as one of its pull voltages. -/
def recorded (pull : CExtraPowerData → Int) (s : NetState) (theNetId : Nat) : Int :=
  match s.netVoltagePtr theNetId with
  | some p => ((s.power p).extraData.map pull).getD unknownVoltage
  | none => unknownVoltage

def recordedPullDown : NetState → Nat → Int := recorded (·.pullDownVoltage)

def recordedPullUp : NetState → Nat → Int := recorded (·.pullUpVoltage)

/-- A recorded pull voltage is known and not above the key. -/
def IsPulled (pull myEventKey : Int) : Prop := pull ≠ unknownVoltage ∧ pull ≤ myEventKey
  deriving Decidable

theorem isSuppressed_min (s : NetState) (k : Int) (n : Nat) :
    s.isSuppressed .min k n = decide (IsPulled (s.recordedPullDown n) k) := rfl

/-- The accessor finds the wrong voltage: in the dual, a pull-up voltage is compared where a pull-down voltage should be. -/
theorem IsDual.isSuppressed_max {s s' : NetState} (h : s.IsDual s') (k : Int) (n : Nat) :
    s'.isSuppressed .max (-k) n = decide (IsPulled (s.recordedPullUp n) k) := by
  obtain ⟨hpull, hdual⟩ : s'.pullVoltage .max n = negate (s.recordedPullUp n) ∧ Cvc.HasDual (s.recordedPullUp n) := by
    unfold pullVoltage recordedPullUp recorded
    rw [h.netVoltagePtr_eq]
    cases s.netVoltagePtr n with
    | none => exact ⟨negate_unknown.symm, hasDual_unknown⟩
    | some p =>
      simp only [h.power_eq, EstimateSide.pullVoltage, CPower.recordDual]
      cases hdata : (s.power p).extraData with
      | none => exact ⟨negate_unknown.symm, hasDual_unknown⟩
      | some data => exact ⟨rfl, (h.hasDual.pull p data hdata).2⟩
  unfold isSuppressed
  rw [hpull]
  exact decide_eq_decide.2 (EstimateSide.suppresses_negate hdual)

end NetState

namespace NetState.IsDual

variable {c : FlatCircuit} (hc : c.HasDual) {s s' : NetState} (h : s.IsDual s') {k : Int} (hk : HasDualKey k) {v : Int}
  {q : EventQueueType} {n : Nat}
include h

theorem hasDual_finalVoltage? (hv : c.finalVoltage? s q n = some v) : Cvc.HasDual v := by
  unfold FlatCircuit.finalVoltage? at hv
  split at hv
  · exact Option.some.inj hv ▸ hasDual_unknown
  split at hv
  · obtain ⟨net, -, rfl⟩ := Option.map_eq_some_iff.1 hv
    exact h.hasDual_voltage q net.finalNetId
  · cases hv

theorem hasDual_leakVoltage? (hv : c.leakVoltage? s q n = some v) : Cvc.HasDual v := by
  unfold FlatCircuit.leakVoltage? at hv
  split at hv
  · exact Option.some.inj hv ▸ hasDual_unknown
  split at hv
  · rw [← Option.some.inj hv]
    cases (c.leakNet q n).bind s.leakVoltagePtr with
    | none => exact hasDual_unknown
    | some p => exact h.hasDual.voltage p q
  · cases hv

theorem estimateChange_eq (suppressed : Nat → Bool) (drain source : Nat) (hv : Cvc.HasDual v) :
    (c.dual hc).estimateChange .max s' suppressed (-k) drain source (negate v) =
      c.estimateChange .min s suppressed k drain source v := by
  have hleak : (c.dual hc).leakVoltage? s' .maxQueue drain = _ := h.leakVoltage?_eq hc .minQueue drain
  unfold FlatCircuit.estimateChange
  simp only [EstimateSide.queue, hleak]
  cases hc' : c.leakVoltage? s .minQueue drain with
  | none => rfl
  | some leak =>
    have hdual := h.hasDual_leakVoltage? hc'
    have hset : (c.dual hc).leakVoltageSet = c.leakVoltageSet := rfl
    simp only [Option.map_some, hset, hv.negate_eq_unknown]
    by_cases hunknown : v = unknownVoltage
    · rw [if_pos hunknown, if_pos hunknown]
      refine if_congr ?_ rfl rfl
      by_cases hleak : leak = unknownVoltage
      · simp [hleak, negate_unknown]
      · simp [hdual.negate_eq_unknown, EstimateSide.le_negate hleak]
    · rw [if_neg hunknown, if_neg hunknown]
      exact if_congr (EstimateSide.lt_negate hunknown) rfl rfl

include hk

theorem diodeChange_eq (suppressed : Nat → Bool) {conn : CConnection} (hdual : conn.HasDual) {myKey : Int} :
    (c.dual hc).diodeChange .max s' suppressed conn.dual (-k) (-myKey) = c.diodeChange .min s suppressed conn k myKey := by
  have hnets : FlatCircuit.propagationNets? conn.dual = FlatCircuit.propagationNets? conn := by
    unfold FlatCircuit.propagationNets? CConnection.dual
    simp [hdual.sourceVoltage.negate_eq_unknown, hdual.drainVoltage.negate_eq_unknown]
  unfold FlatCircuit.diodeChange
  rw [hnets]
  cases FlatCircuit.propagationNets? conn with
  | none => rfl
  | some nets =>
    obtain ⟨drain, source⟩ := nets
    have hmin : ∀ n, (c.dual hc).finalVoltage? s' .minQueue n = _ := h.finalVoltage?_eq hc .maxQueue
    have hmax : ∀ n, (c.dual hc).finalVoltage? s' .maxQueue n = _ := h.finalVoltage?_eq hc .minQueue
    simp only [hmin, hmax]
    cases c.finalVoltage? s .minQueue source <;> cases c.finalVoltage? s .maxQueue source <;>
      cases hdrain : c.finalVoltage? s .minQueue drain <;> cases c.finalVoltage? s .maxQueue drain <;> try rfl
    refine if_congr (hk.negate_eq) ?_ rfl
    exact h.estimateChange_eq hc suppressed drain source (h.hasDual_finalVoltage? hdrain)

theorem checkChange_eq (suppressed : Nat → Bool) (drain source : Nat) :
    (c.dual hc).checkChange .max s' suppressed (-k) drain source = c.checkChange .min s suppressed k drain source := by
  have hvoltage : (c.dual hc).finalVoltage? s' .maxQueue drain = _ := h.finalVoltage?_eq hc .minQueue drain
  have hfloating : (c.dual hc).isFloating? s' .maxQueue drain = _ := h.isFloating?_eq hc .minQueue drain
  unfold FlatCircuit.checkChange
  simp only [EstimateSide.queue, hvoltage, hfloating, h.netVoltagePtr_eq]
  cases hv : c.finalVoltage? s .minQueue drain with
  | none => rfl
  | some v =>
    cases c.isFloating? s .minQueue drain with
    | none => rfl
    | some floating =>
      have hdual := h.hasDual_finalVoltage? hv
      have hneeds : EstimateSide.max.needsCheck (s'.netStatus source) = EstimateSide.min.needsCheck (s.netStatus source) := by
        rw [h.netStatus_eq]
        rfl
      refine if_congr ?_ rfl rfl
      simp [hneeds, hdual.negate_eq_unknown, hk.negate_eq]

end NetState.IsDual

end Cvc
