import Cvc.Lemmas.DualSteps
import Cvc.Netlist

/-!
# The duality of estimated voltages

A device in the max queue is compared with the dual device in the min queue of the dual nets, by the flags of the nets after it:
for the estimates behind a transistor that is connected as a diode, the check after a threshold, and a device that is already
shorted.

The accessor of the pull-up voltage returns the pull-down voltage. So the flags are dual only where that makes no difference, and,
for a device that is already shorted, where the net that needs a connection has a known voltage.
-/

namespace Cvc

open Function (update update_self update_of_ne)
open Program NetFlags CConnection FlagChange NetState

variable {netStatus : Nat → NetFlags} {d : Nat}

/-- The flags after a function on nets and after one on their dual are dual. -/
def Mirrors {α β : Type} (m : NetM α) (m' : NetM β) (s s' : NetState) : Prop :=
    ∀ n, statusAfter m' s' n = (statusAfter m s n).dual

theorem Mirrors.of_lockstep {m m' : NetM Unit} {s s' : NetState} (h : DualSteps m m' s s') : Mirrors m m' s s' := by
  intro n
  unfold DualSteps Lockstep at h
  unfold statusAfter
  revert h
  cases m s <;> cases m' s' <;> intro h
  · exact IsDual.netStatus_eq h n
  · exact h.elim
  · exact h.elim
  · exact h n

/-- Two changes that differ by the test of a pull voltage. -/
theorem FlagChange.apply_suppressed_iff {change : FlagChange} {flag suppressed suppressed' : Bool}
    (hchange : change.apply .min netStatus = netStatus ↔ flag = true) :
    (∀ n, (if suppressed' then .keep else change : FlagChange).apply .min netStatus n =
      (if suppressed then .keep else change : FlagChange).apply .min netStatus n) ↔
      flag = true ∨ (suppressed = true ↔ suppressed' = true) := by
  rw [← funext_iff]
  cases suppressed <;> cases suppressed' <;> simp [apply, ← hchange, eq_comm]

theorem FlagChange.set_eq_iff : ((setConnection d).apply .min netStatus = netStatus ↔ (netStatus d).needsMinConnection = true) ∧
    ((setCheck d).apply .min netStatus = netStatus ↔ (netStatus d).needsMinCheck = true) := by
  unfold apply
  simp only [Function.update_eq_self_iff, EstimateSide.setConnection, EstimateSide.setCheck]
  cases netStatus d
  simp

namespace FlatCircuit

variable {c : FlatCircuit} {s : NetState} {α β : Type}

variable (c) in
/-- A transistor that is connected as a diode makes the code estimate a min voltage, and it comes to the test of the pull-down
voltage: the min voltage of the source is the key, that of the drain is not known, and there is no leak voltage that is low
enough. -/
structure EstimatesMin (s : NetState) (theConnections : CConnection) (theEventKey myEventKey : Int)
    (drain source : Nat) (leak : Int) :
    Prop where
  nets : propagationNets? theConnections = some (drain, source)
  source_min : c.finalVoltage? s .minQueue source = some theEventKey
  source_max : (c.finalVoltage? s .maxQueue source).isSome = true
  drain_min : c.finalVoltage? s .minQueue drain = some unknownVoltage
  drain_max : (c.finalVoltage? s .maxQueue drain).isSome = true
  leak_eq : c.leakVoltage? s .minQueue drain = some leak
  leak_high : ¬ (c.leakVoltageSet = true ∧ leak ≠ unknownVoltage ∧ leak ≤ myEventKey)

theorem leak_low_iff (leak k : Int) : (c.leakVoltageSet && leak != unknownVoltage && decide (EstimateSide.min.Le leak k)) = true ↔
    c.leakVoltageSet = true ∧ leak ≠ unknownVoltage ∧ leak ≤ k := by
  simp only [Bool.and_eq_true, bne_iff_ne, decide_eq_true_eq, and_assoc]
  rfl

theorem if_congr_left {p : Prop} [Decidable p] {a b d : FlagChange} (h : p → a = b) :
    (if p then a else d) = if p then b else d := by
  split
  · exact h ‹p›
  · rfl

/-- The pull voltages matter only in an estimate. -/
theorem diodeChange_cases (conn : CConnection) (ev key : Int) :
    (∃ drain source leak, c.EstimatesMin s conn ev key drain source leak ∧
      ∀ suppressed, c.diodeChange .min s suppressed conn ev key =
        if suppressed drain then .keep else .setConnection drain) ∨
    ((∀ drain source leak, ¬ c.EstimatesMin s conn ev key drain source leak) ∧
      ∀ suppressed suppressed', c.diodeChange .min s suppressed conn ev key = c.diodeChange .min s suppressed' conn ev key) := by
  by_cases h : ∃ drain source leak, c.EstimatesMin s conn ev key drain source leak
  · obtain ⟨drain, source, leak, h⟩ := h
    refine .inl ⟨drain, source, leak, h, fun suppressed => ?_⟩
    obtain ⟨maxSource, hmaxSource⟩ := Option.isSome_iff_exists.1 h.source_max
    obtain ⟨maxDrain, hmaxDrain⟩ := Option.isSome_iff_exists.1 h.drain_max
    have hleak := mt (leak_low_iff leak key).1 h.leak_high
    unfold diodeChange estimateChange
    simp only [h.nets, h.source_min, hmaxSource, h.drain_min, hmaxDrain, EstimateSide.ofMinMax, EstimateSide.queue,
      h.leak_eq, if_true,
      if_neg hleak]
  refine .inr ⟨fun drain source leak hestimate => h ⟨drain, source, leak, hestimate⟩, fun suppressed suppressed' => ?_⟩
  unfold diodeChange
  cases hnets : propagationNets? conn with
  | none => rfl
  | some nets =>
    obtain ⟨drain, source⟩ := nets
    simp only
    cases hminSource : c.finalVoltage? s .minQueue source <;> cases hmaxSource : c.finalVoltage? s .maxQueue source <;>
      cases hminDrain : c.finalVoltage? s .minQueue drain <;> cases hmaxDrain : c.finalVoltage? s .maxQueue drain <;> try rfl
    rename_i minSource maxSource minDrain maxDrain
    refine if_congr_left fun hkey : minSource = ev => ?_
    unfold estimateChange
    simp only [EstimateSide.queue]
    cases hleak : c.leakVoltage? s .minQueue drain with
    | none => rfl
    | some leak =>
      refine if_congr_left fun hunknown : minDrain = unknownVoltage => ?_
      by_cases hlow : (c.leakVoltageSet && leak != unknownVoltage && decide (EstimateSide.min.Le leak key)) = true
      · simp only [hlow, if_true]
      · exact (h ⟨drain, source, leak, hnets, hkey ▸ hminSource, by simp [hmaxSource], hunknown ▸ hminDrain,
          by simp [hmaxDrain], hleak, mt (leak_low_iff leak key).2 hlow⟩).elim

variable (c) in
/-- After a threshold the code comes to the test of the pull-down voltage: the min voltage of the drain is floating, unknown or
the key, or the source needs a check, and the drain has a power. -/
structure ChecksMin (s : NetState) (myEventKey : Int) (drain source : Nat) (v : Int) (floating : Bool) : Prop where
  voltage : c.finalVoltage? s .minQueue drain = some v
  isFloating : c.isFloating? s .minQueue drain = some floating
  needed : floating = true ∨ v = unknownVoltage ∨ v = myEventKey ∨ (s.netStatus source).needsMinCheck = true
  hasPower : (s.netVoltagePtr drain).isSome = true

theorem checkChange_cases (key : Int) (drain source : Nat) : ((∃ v floating, c.ChecksMin s key drain source v floating) ∧
      ∀ suppressed, c.checkChange .min s suppressed key drain source = if suppressed drain then .keep else .setCheck drain) ∨
    ((∀ v floating, ¬ c.ChecksMin s key drain source v floating) ∧
      ∀ suppressed, c.checkChange .min s suppressed key drain source = .keep) := by
  unfold checkChange
  simp only [EstimateSide.queue]
  cases hv : c.finalVoltage? s .minQueue drain with
  | none => exact .inr ⟨fun v floating h => by simpa [hv] using h.voltage, fun _ => rfl⟩
  | some v =>
    cases hfloating : c.isFloating? s .minQueue drain with
    | none => exact .inr ⟨fun v floating h => by simpa [hfloating] using h.isFloating, fun _ => rfl⟩
    | some floating =>
      simp only
      by_cases hneeds : ((floating || v == unknownVoltage || v == key || EstimateSide.min.needsCheck (s.netStatus source)) &&
          (s.netVoltagePtr drain).isSome) = true
      · simp only [hneeds, if_true]
        simp only [Bool.and_eq_true, Bool.or_eq_true, beq_iff_eq, or_assoc] at hneeds
        exact .inl ⟨⟨v, floating, hv, hfloating, hneeds.1, hneeds.2⟩, fun _ => trivial⟩
      simp only [if_neg hneeds]
      refine .inr ⟨fun v' floating' h => hneeds ?_, fun _ => trivial⟩
      obtain rfl : v = v' := Option.some.inj (hv.symm.trans h.voltage)
      obtain rfl : floating = floating' := Option.some.inj (hfloating.symm.trans h.isFloating)
      simp only [Bool.and_eq_true, Bool.or_eq_true, beq_iff_eq, or_assoc]
      exact ⟨h.needed, h.hasPower⟩

/-! ### Estimates and checks -/

variable {s' : NetState} {hc : c.HasDual} {d : Nat} {conn : CConnection}

open NetState (IsPulled)

/-- The flags after changes of the two sides, of which only the tests of pull voltages differ. -/
theorem mirrors_iff {m : NetM α} {m' : NetM β} (h : s.IsDual s') (change : (Nat → Bool) → FlagChange) {k : Int}
    (hm : statusAfter m s = (change (s.isSuppressed .min k)).apply .min s.netStatus)
    (hm' : statusAfter m' s' = (change (s'.isSuppressed .max (-k))).apply .max s'.netStatus) :
    Mirrors m m' s s' ↔ ∀ n, (change fun n => decide (IsPulled (s.recordedPullUp n) k)).apply .min s.netStatus n =
      (change fun n => decide (IsPulled (s.recordedPullDown n) k)).apply .min s.netStatus n := by
  unfold Mirrors
  refine forall_congr' fun n => ?_
  rw [hm, hm', apply_dual h.netStatus_eq, dual_inj, funext (h.isSuppressed_max k), funext (s.isSuppressed_min k)]

theorem estimateMosDiode_mirrors_iff (h : s.IsDual s') (hdual : conn.HasDual) {ev key : Int} (hkey : HasDualKey ev) :
    Mirrors (c.estimateMosDiode .maxQueue d conn ev key) ((c.dual hc).estimateMosDiode .minQueue d conn.dual (-ev) (-key)) s s' ↔
    ∀ drain source leak, c.EstimatesMin s conn ev key drain source leak → (s.netStatus drain).needsMinConnection = true ∨
        (IsPulled (s.recordedPullDown drain) key ↔ IsPulled (s.recordedPullUp drain) key) := by
  refine (mirrors_iff h (fun suppressed => c.diodeChange .min s suppressed conn ev key) (statusAfter_estimateMosDiode .min ..)
    ((statusAfter_estimateMosDiode .max ..).trans (by rw [h.diodeChange_eq hc hkey _ hdual]))).trans ?_
  obtain ⟨drain, source, leak, hestimate, hchange⟩ | ⟨hnone, hchange⟩ := diodeChange_cases (c := c) (s := s) conn ev key
  · simp only [hchange]
    rw [apply_suppressed_iff set_eq_iff.1]
    simp only [decide_eq_true_eq]
    refine ⟨fun h' drain' source' leak' hestimate' => ?_, fun h' => h' drain source leak hestimate⟩
    obtain ⟨rfl, -⟩ := Prod.mk.inj (Option.some.inj (hestimate.nets.symm.trans hestimate'.nets))
    exact h'
  · exact ⟨fun _ drain source leak hestimate => (hnone drain source leak hestimate).elim, fun _ n => by rw [hchange]⟩

theorem addCheck_mirrors_iff (h : s.IsDual s') {myOriginalEventKey key : Int} (hkey : HasDualKey key) (drain source : Nat) :
    Mirrors (c.addCheck .maxQueue d myOriginalEventKey key drain source)
      ((c.dual hc).addCheck .minQueue d (-myOriginalEventKey) (-key) drain source) s s' ↔
    (myOriginalEventKey > key → (c.deviceType d).isNmos = true → ∀ v floating, c.ChecksMin s key drain source v floating →
      (s.netStatus drain).needsMinCheck = true ∨
        (IsPulled (s.recordedPullDown drain) key ↔ IsPulled (s.recordedPullUp drain) key)) := by
  have hpmos : ((c.dual hc).deviceType d).isPmos = (c.deviceType d).isNmos := ModelType.isPmos_dual _
  unfold addCheck
  by_cases hdrop : myOriginalEventKey > key ∧ (c.deviceType d).isNmos = true
  · rw [if_neg (fun hmin => nomatch hmin.1), if_pos ⟨rfl, hdrop⟩, if_pos ⟨rfl, by omega, hpmos.trans hdrop.2⟩]
    refine (mirrors_iff h (fun suppressed => c.checkChange .min s suppressed key drain source) (statusAfter_addSideCheck .min ..)
      ((statusAfter_addSideCheck .max ..).trans (by rw [h.checkChange_eq hc hkey]))).trans ?_
    obtain ⟨⟨v, floating, hcheck⟩, hchange⟩ | ⟨hnone, hchange⟩ := checkChange_cases (c := c) (s := s) key drain source
    · simp only [hchange]
      rw [apply_suppressed_iff set_eq_iff.2]
      simp only [decide_eq_true_eq]
      exact ⟨fun h' _ _ _ _ _ => h', fun h' => h' hdrop.1 hdrop.2 v floating hcheck⟩
    · refine ⟨fun _ _ _ v floating hcheck => (hnone v floating hcheck).elim, fun _ n => ?_⟩
      simp [hchange]
  · rw [if_neg (fun hmin => nomatch hmin.1), if_neg (fun hmax => hdrop hmax.2),
      if_neg (fun hmin => hdrop ⟨by omega, hpmos.symm.trans hmin.2.2⟩), if_neg (fun hmax => nomatch hmax.1)]
    exact ⟨fun _ hgt hnmos => (hdrop ⟨hgt, hnmos⟩).elim, fun _ n => h.netStatus_eq n⟩

/-! ### Shorted devices -/

variable {pending : Nat → Bool} {dir : ShortDirection}

theorem statusAfter_of_keeps {m : NetM α} (hm : KeepsStatus s.netStatus m) : statusAfter m s = s.netStatus :=
  statusAfter_eq (wp.imp (hm s rfl) fun _ _ h => h.1)

/-- What follows a function does not change the flags. -/
theorem statusAfter_bind_pure (m : NetM α) (b : β) : statusAfter (do let _ ← m; pure b) s = statusAfter m s := by
  show statusAfter (.bind m fun _ => pure b) s = _
  unfold statusAfter EStateM.bind
  cases m s <;> rfl

theorem mirrors_bind_pure {γ δ : Type} {m : NetM α} {m' : NetM β} {b : γ} {d : δ} :
    Mirrors (do let _ ← m; pure b) (do let _ ← m'; pure d) s s' ↔ Mirrors m m' s s' := by
  unfold Mirrors
  rw [statusAfter_bind_pure, statusAfter_bind_pure]

theorem ConnectsUnknown.dual_iff (hc : c.HasDual) (h : s.IsDual s') (hdual : conn.HasDual) :
    (c.dual hc).ConnectsUnknown .min s' conn.dual dir ↔ c.ConnectsUnknown .max s conn dir := by
  have hreadable : (c.dual hc).finalVoltage? s' EstimateSide.min.dual.queue (conn.slaveId dir) = _ :=
    h.finalVoltage?_eq hc .minQueue _
  have hignored : ((c.dual hc).leakVoltageSet && s'.isHiz (conn.masterPower dir)) =
      (c.leakVoltageSet && s.isHiz (conn.masterPower dir)) := by
    rw [h.isHiz_eq]
    rfl
  have hslave := (hdual.slaveVoltage dir).negate_eq_unknown
  have hmaster := (hdual.masterVoltage dir).negate_eq_unknown
  constructor <;> rintro ⟨h1, h2, h3, h4, h5, h6, h7⟩ <;> constructor <;>
    simp only [slaveVoltage_dual, masterVoltage_dual, slaveId_dual, masterPower_dual, ne_eq, hslave, hmaster,
      h.needsConnection_eq,
      h.isVerifiedPower_eq, hreadable, Option.isSome_map, h.netVoltagePtr_eq, hignored] at * <;> assumption

section
variable (h : s.IsDual s') (hdual : conn.HasDual)
include h hdual

/-- A device of which one net has no voltage. -/
theorem connectEstimate_mirrors_iff (hslave : conn.slaveVoltage dir = unknownVoltage) :
    Mirrors (c.connectEstimate d conn dir .max pending) ((c.dual hc).connectEstimate d conn.dual dir .min pending) s s' ↔
    ¬ c.ConnectsUnknown .max s conn dir := by
  have hkeep : statusAfter (c.connectEstimate d conn dir .max pending) s = s.netStatus :=
    statusAfter_eq (wp_connectEstimate_unknown hslave (hdual.masterVoltage dir).le_unknown
      (fun _ t ht => ⟨ht, fun _ => ht⟩) fun hmin => nomatch hmin)
  have hslave' : conn.dual.slaveVoltage dir = unknownVoltage := by
    rw [slaveVoltage_dual, hslave, negate_unknown]
  have hmaster' : conn.dual.masterVoltage dir ≤ unknownVoltage := by
    rw [masterVoltage_dual]
    exact Int.le_of_lt_add_one (hdual.masterVoltage dir).isVoltage_negate.2
  unfold Mirrors
  rw [hkeep]
  constructor
  · intro hmirror hconnect
    have hconnect' := (ConnectsUnknown.dual_iff hc h hdual).2 hconnect
    have hclear : statusAfter ((c.dual hc).connectEstimate d conn.dual dir .min pending) s' = _ :=
      statusAfter_eq (wp_connectEstimate_unknown hslave' hmaster'
        (fun hnot => (hnot.elim nofun fun hnot => hnot hconnect').elim) fun _ _ t ht => ht)
    have hflag := hmirror (conn.slaveId dir)
    rw [hclear, slaveId_dual, update_self] at hflag
    have hneeded : (s.netStatus (conn.slaveId dir)).needsMaxConnection = true := hconnect.needed
    have hcleared : false = (s.netStatus (conn.slaveId dir)).needsMaxConnection :=
      congrArg needsMinConnection hflag
    rw [hneeded] at hcleared
    cases hcleared
  · intro hnot n
    rw [← h.netStatus_eq]
    refine congrFun (statusAfter_eq (wp_connectEstimate_unknown hslave' hmaster' (fun _ t ht => ⟨ht, fun _ => ht⟩) ?_)) n
    exact fun _ hconnect => (hnot ((ConnectsUnknown.dual_iff hc h hdual).1 hconnect)).elim

theorem connectEstimates_mirrors_iff : Mirrors (c.connectEstimates .maxQueue d conn pending)
      ((c.dual hc).connectEstimates .minQueue d conn.dual pending) s s' ↔
        ∀ direction, ¬ c.ConnectsUnknown .max s conn direction := by
  show Mirrors (do
      c.connectEstimate d conn .sourceToMasterDrain .max pending
      c.connectEstimate d conn .drainToMasterSource .max pending
      pure false)
    (do
      (c.dual hc).connectEstimate d conn.dual .sourceToMasterDrain .min pending
      (c.dual hc).connectEstimate d conn.dual .drainToMasterSource .min pending
      pure false) s s' ↔ _
  -- the direction whose master net has no voltage does nothing
  have hnothing : ∀ dir, conn.masterVoltage dir = unknownVoltage → c.connectEstimate d conn dir .max pending = pure () ∧
      (c.dual hc).connectEstimate d conn.dual dir .min pending = pure () ∧
      ¬ c.ConnectsUnknown .max s conn dir := by
    intro dir hmaster
    refine ⟨connectEstimate_of_unknown hmaster, connectEstimate_of_unknown ?_, fun hconnect => hconnect.master hmaster⟩
    rw [masterVoltage_dual, hmaster, negate_unknown]
  have honly := fun direction => @connectEstimate_mirrors_iff c s s' hc d conn pending direction h hdual
  by_cases hsource : conn.sourceVoltage = unknownVoltage
  · obtain ⟨hmax, hmin, hnot⟩ := hnothing .drainToMasterSource hsource
    rw [hmax, hmin]
    refine mirrors_bind_pure.trans ((honly .sourceToMasterDrain hsource).trans ⟨fun _ direction => ?_, fun hall => hall _⟩)
    cases direction <;> assumption
  by_cases hdrain : conn.drainVoltage = unknownVoltage
  · obtain ⟨hmax, hmin, hnot⟩ := hnothing .sourceToMasterDrain hdrain
    rw [hmax, hmin]
    refine mirrors_bind_pure.trans ((honly .drainToMasterSource hdrain).trans ⟨fun _ direction => ?_, fun hall => hall _⟩)
    cases direction <;> assumption
  have hknown : ∀ direction, conn.slaveVoltage direction ≠ unknownVoltage := by
    intro direction
    cases direction <;> assumption
  refine ⟨fun _ direction hconnect => hknown direction hconnect.slave, fun _ => ?_⟩
  have hsteps : DualSteps (do
        c.connectEstimate d conn .sourceToMasterDrain .max pending
        c.connectEstimate d conn .drainToMasterSource .max pending)
      (do
        (c.dual hc).connectEstimate d conn.dual .sourceToMasterDrain .min pending
        (c.dual hc).connectEstimate d conn.dual .drainToMasterSource .min pending) s s' :=
    .bind (connectEstimate_dual h hdual (hknown _)) fun _ _ _ _ ht => connectEstimate_dual ht hdual (hknown _)
  have hmirror := mirrors_bind_pure (b := false) (d := false) |>.2 (.of_lockstep hsteps)
  simpa only [bind_assoc] using hmirror

theorem alreadyShorted_mirrors_iff : Mirrors (c.alreadyShortedNets .maxQueue d conn pending)
      ((c.dual hc).alreadyShortedNets .minQueue d conn.dual pending) s s' ↔
    (conn.masterSourceNet.finalNetId ≠ conn.masterDrainNet.finalNetId →
      ∀ direction, ¬ c.ConnectsUnknown .max s conn direction) := by
  have hfinal : conn.dual.masterSourceNet.finalNetId = conn.dual.masterDrainNet.finalNetId ↔
      conn.masterSourceNet.finalNetId = conn.masterDrainNet.finalNetId := .rfl
  unfold alreadyShortedNets
  by_cases hsame : conn.masterSourceNet.finalNetId = conn.masterDrainNet.finalNetId
  · rw [if_pos hsame, if_pos (hfinal.2 hsame)]
    refine ⟨fun _ hne => (hne hsame).elim, fun _ n => ?_⟩
    rw [statusAfter_bind_pure, statusAfter_bind_pure, statusAfter_of_keeps KeepsStatus.rerouteShorted,
      statusAfter_of_keeps KeepsStatus.rerouteShorted, h.netStatus_eq]
  · rw [if_neg hsame, if_neg (mt hfinal.1 hsame)]
    exact (connectEstimates_mirrors_iff h hdual).trans ⟨fun hnot _ => hnot, fun hnot => hnot hsame⟩

end

/-- A device in the max queue and the dual device in the min queue set and clear dual flags: the estimates of a transistor that is
connected as a diode and the check after a threshold do so exactly if, where the pull-down voltage is tested, the recorded pull-up
voltage gives the same answer, or the flag is set already; a device that is already shorted does so exactly if it does not connect
a net without a voltage that needs a connection. -/
theorem estimates_mirror_iff (c : FlatCircuit) (hc : c.HasDual) (s : NetState) (hs : s.HasDual) (theDeviceId : Nat) :
    (∀ theConnections theEventKey myEventKey, theConnections.HasDual → HasDualKey theEventKey → HasDualKey myEventKey →
      (Mirrors (c.estimateMosDiode .maxQueue theDeviceId theConnections theEventKey myEventKey)
        ((c.dual hc).estimateMosDiode .minQueue theDeviceId theConnections.dual (-theEventKey) (-myEventKey)) s (s.dual hs) ↔
      ∀ drain source leak, c.EstimatesMin s theConnections theEventKey myEventKey drain source leak →
        (s.netStatus drain).needsMinConnection = true ∨
          (IsPulled (s.recordedPullDown drain) myEventKey ↔ IsPulled (s.recordedPullUp drain) myEventKey))) ∧
    (∀ myOriginalEventKey myEventKey drain source, HasDualKey myOriginalEventKey → HasDualKey myEventKey →
      (Mirrors (c.addCheck .maxQueue theDeviceId myOriginalEventKey myEventKey drain source)
        ((c.dual hc).addCheck .minQueue theDeviceId (-myOriginalEventKey) (-myEventKey) drain source) s (s.dual hs) ↔
      (myOriginalEventKey > myEventKey → (c.deviceType theDeviceId).isNmos = true →
        ∀ v floating, c.ChecksMin s myEventKey drain source v floating →
          (s.netStatus drain).needsMinCheck = true ∨
            (IsPulled (s.recordedPullDown drain) myEventKey ↔ IsPulled (s.recordedPullUp drain) myEventKey)))) ∧
    (∀ theConnections pending, theConnections.HasDual →
      (Mirrors (c.alreadyShortedNets .maxQueue theDeviceId theConnections pending)
        ((c.dual hc).alreadyShortedNets .minQueue theDeviceId theConnections.dual pending) s (s.dual hs) ↔
      (theConnections.masterSourceNet.finalNetId ≠ theConnections.masterDrainNet.finalNetId →
        ∀ direction, ¬ c.ConnectsUnknown .max s theConnections direction))) := by
  have h := s.isDual_dual hs
  refine ⟨fun theConnections theEventKey myEventKey hdual hkey _ => ?_,
    fun myOriginalEventKey myEventKey drain source _ hkey => ?_,
    fun theConnections pending hdual => ?_⟩
  · exact estimateMosDiode_mirrors_iff h hdual hkey
  · exact addCheck_mirrors_iff h hkey drain source
  · exact alreadyShorted_mirrors_iff h hdual

/-! ### A net that is pulled down -/

/-- A transistor that is connected as a diode between a power and a net. -/
def pulledDevices : List FlatDevice := [{ type := .nmos, source := 1, gate := 0, drain := 0, vth := 400, resistance := 7000 }]

def pulledCircuit : FlatCircuit := .ofDevices 2 pulledDevices (by decide) false false

/-- The min voltage of the net is estimated, and a pull-down voltage was found for it. -/
def pullState (pull : Int) : NetState :=
  .ofPowers 2 pulledDevices
    [{ netId := 0, minVoltage := 1000, simVoltage := 1000, maxVoltage := 1000, type := { powerBit := true } },
      { netId := 1, minVoltage := 600, maxVoltage := 600, extraData := some { pullDownVoltage := pull } }]

def pulledState : NetState := pullState 0

theorem pulledCircuit_hasDual : pulledCircuit.HasDual := by
  intro d
  cases d with
  | zero => exact (by decide : Cvc.HasDual (int16 400))
  | succ d => exact (by decide : Cvc.HasDual (int16 0))

theorem pullState_hasDual {pull : Int} (h : Cvc.HasDual pull) : (pullState pull).HasDual where
  voltage p q :=
    match p with
    | 0 => by cases q <;> exact (by decide : Cvc.HasDual (int16 1000))
    | 1 => by
      cases q with
      | simQueue => exact (by decide : Cvc.HasDual (int16 unknownVoltage))
      | minQueue | maxQueue => exact (by decide : Cvc.HasDual (int16 600))
    | p + 2 => by cases q <;> exact (by decide : Cvc.HasDual (int16 unknownVoltage))
  pull p data hdata :=
    match p with
    | 0 => nomatch hdata
    | 1 => by
      obtain rfl := Option.some.inj hdata
      exact ⟨h, hasDual_unknown⟩
    | p + 2 => nomatch hdata

theorem pulledState_hasDual : pulledState.HasDual := pullState_hasDual (by decide)

theorem pullState_high : (pullState 700).HasDual := pullState_hasDual (by decide)

/-- A pull-down voltage above the key does not answer the test, nor does the pull-up voltage that is not recorded: both sides set
their flag. -/
theorem pulled_mirrors : (statusAfter (pulledCircuit.addCheck .maxQueue 0 1000 600 1 0) (pullState 700) 1).needsMinCheck = true ∧
    Mirrors (pulledCircuit.addCheck .maxQueue 0 1000 600 1 0)
      ((pulledCircuit.dual pulledCircuit_hasDual).addCheck .minQueue 0 (-1000) (-600) 1 0) (pullState 700)
      ((pullState 700).dual pullState_high) := by
  refine ⟨by decide +kernel, ?_⟩
  have hiff := (estimates_mirror_iff pulledCircuit pulledCircuit_hasDual (pullState 700) pullState_high 0).2.1 1000 600 1 0
    (by decide) (by decide)
  exact hiff.2 fun _ _ _ _ _ => .inr (by decide)

/-- A recorded pull-down voltage makes the check of a min voltage unnecessary; the dual pull-up voltage does not. -/
theorem pulled_not_mirrors : ¬ Mirrors (pulledCircuit.addCheck .maxQueue 0 1000 600 1 0)
    ((pulledCircuit.dual pulledCircuit_hasDual).addCheck .minQueue 0 (-1000) (-600) 1 0) pulledState
    (pulledState.dual pulledState_hasDual) := by
  intro h
  have h1 := h 1
  revert h1
  decide +kernel

end FlatCircuit
end Cvc
