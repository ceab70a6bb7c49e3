import Cvc.Dual
import Cvc.GateSource

/-!
# Gate versus source checks on a device and on its dual

The largest difference of an NMOS device starts at `min(0, Vth)`, that of a PMOS device at `max(0, Vth)`; the mirror image of the
first is `-min(0, Vth)`. For a device with a threshold under zero (a depletion device) the one starts under zero and the other
over it, so a device whose differences are all below the error threshold can pass as NMOS and be an error as PMOS. Besides, both
read an unknown voltage as the number that marks it, which the dual does not negate. `Errs` has the tests of both on the voltages
of the device, and `gateVsSource_dual_iff` says exactly when they differ.
-/

namespace Cvc

open CFullConnection List

variable {counts : Bool} {d m v t : Int}

/-- The 16-bit numbers whose negative is one. -/
def Fits (v : Int) : Prop := -unknownVoltage ≤ v ∧ v ≤ unknownVoltage
  deriving Decidable

theorem int16_of_fits (h : Fits v) : int16 v = v := by
  unfold Fits unknownVoltage at h
  unfold int16
  rw [Int.bmod_eq_of_le] <;> omega

theorem Fits.neg (h : Fits v) : Fits (-v) := by
  unfold Fits at *
  omega

/-- The check counts an error. -/
def GateCheck.Flags (result : Except Failure GateCheck) : Prop := ∃ heading, result = .ok (.error heading)

/-! ## The largest difference -/

theorem raiseTo_le_iff : raiseTo counts d m ≤ t ↔ m ≤ t ∧ (counts = true → d ≤ t) := by
  unfold raiseTo
  cases counts with
  | false => simp
  | true =>
    simp only [Bool.true_and, decide_eq_true_eq, true_implies]
    split <;> omega

theorem raiseTo_lt_iff : raiseTo counts d m < t ↔ m < t ∧ (counts = true → d < t) := by
  simp only [← Int.le_sub_one_iff, raiseTo_le_iff]

theorem raiseTo_congr {d' : Int} (h : counts = true → d = d') : raiseTo counts d m = raiseTo counts d' m := by
  cases counts with
  | false => rfl
  | true => rw [h rfl]

/-- The difference of a device with its dual: no sum or difference leaves the 16 bits. -/
def NoOverflow (vth : Int) (gate other : Terminal) : Prop :=
  gate.minVoltage ≠ unknownVoltage → other.minVoltage ≠ unknownVoltage →
    Fits (other.minVoltage + vth) ∧ Fits (gate.minVoltage - min other.minVoltage (other.minVoltage + vth))

namespace GateSourceEnv

variable {vth : Int}

theorem pmosDifference_dual {gate other : Terminal} (hover : NoOverflow vth gate other)
    (hknown : checkTerminalMinVoltages [gate, other] = true) :
    pmosDifference (-vth) gate.dual other.dual = nmosDifference vth gate other := by
  simp only [checkTerminalMinVoltages, all_cons, all_nil, Bool.and_true, Bool.and_eq_true, bne_iff_ne] at hknown
  obtain ⟨hsum, hdiff⟩ := hover hknown.1 hknown.2
  have hsum' : Fits (-other.minVoltage + -vth) := by
    have := hsum.neg
    rwa [Int.neg_add] at this
  show int16 (maxVoltageOf (negate other.minVoltage) (negate other.minVoltage + -vth) - negate gate.minVoltage) = _
  rw [negate_of_ne hknown.1, negate_of_ne hknown.2]
  unfold nmosDifference minVoltageOf maxVoltageOf
  rw [int16_of_fits hsum, int16_of_fits hsum']
  congr 1
  split <;> split <;> omega

/-- The largest difference of an NMOS device, from a start on. -/
def largestDifference (c : CFullConnection) (start : Int) : Int :=
  maxDifference c checkTerminalMinVoltages (nmosDifference c.vth c.gate) start

theorem pmosMaxDifference_dual {c : CFullConnection} (hc : c.HasDual) (hs : NoOverflow c.vth c.gate c.source)
    (hd : NoOverflow c.vth c.gate c.drain) : pmosMaxDifference c.dual = largestDifference c (max 0 (-c.vth)) := by
  have hgs := checkTerminalMaxVoltages_dual [c.gate, c.source] (by simp [hc.gate, hc.source])
  have hgd := checkTerminalMaxVoltages_dual [c.gate, c.drain] (by simp [hc.gate, hc.drain])
  have hdrain : checkTerminalMinVoltages [c.gate, c.drain] && c.gate.netId != c.source.netId →
      pmosDifference (-c.vth) c.gate.dual c.drain.dual = nmosDifference c.vth c.gate c.drain :=
    fun h => pmosDifference_dual hd (Bool.and_eq_true_iff.1 h).1
  have hsource : checkTerminalMinVoltages [c.gate, c.source] && c.gate.netId != c.drain.netId →
      pmosDifference (-c.vth) c.gate.dual c.source.dual = nmosDifference c.vth c.gate c.source :=
    fun h => pmosDifference_dual hs (Bool.and_eq_true_iff.1 h).1
  rw [largestDifference, maxDifference, ← raiseTo_congr hdrain, ← raiseTo_congr hsource, ← hgs, ← hgd]
  rfl

/-- The differences that count for an NMOS device are at most the error threshold. -/
def DifferencesWithin (c : CFullConnection) (t : Int) : Prop :=
  ((checkTerminalMinVoltages [c.gate, c.source] && c.gate.netId != c.drain.netId) = true →
      nmosDifference c.vth c.gate c.source ≤ t) ∧
    ((checkTerminalMinVoltages [c.gate, c.drain] && c.gate.netId != c.source.netId) = true →
      nmosDifference c.vth c.gate c.drain ≤ t)

section
variable {env : GateSourceEnv} {c : CFullConnection} {gatePower : Nat}

/-- A depletion device with an error threshold between its threshold and the negative of that, and no difference over it. -/
def Depletion (env : GateSourceEnv) (c : CFullConnection) : Prop :=
  c.vth ≤ env.cvcGateErrorThreshold ∧ env.cvcGateErrorThreshold < -c.vth ∧ DifferencesWithin c env.cvcGateErrorThreshold

/-- The difference of a device and that of its dual are too small together, but for a depletion device. -/
theorem tooSmall_dual_iff : env.tooSmall c.vth (largestDifference c (min 0 c.vth)) = true ↔
    env.tooSmall c.vth (largestDifference c (max 0 (-c.vth))) = true ∨ env.Depletion c := by
  unfold tooSmall Depletion DifferencesWithin largestDifference maxDifference
  simp only [Bool.or_eq_true, Bool.and_eq_true, decide_eq_true_eq, raiseTo_le_iff, raiseTo_lt_iff]
  rcases Int.le_total 0 c.vth with hv | hv
  · rw [Int.min_eq_left hv, Int.max_eq_left (by omega)]
    refine ⟨.inl, ?_⟩
    rintro (h | ⟨hle, hlt, -⟩)
    · exact h
    · omega
  rw [Int.min_eq_right hv, Int.max_eq_right (by omega)]
  constructor
  · rintro (⟨⟨hle, hsource⟩, hdrain⟩ | ⟨-, ⟨hlt, -⟩, -⟩)
    · rcases Int.lt_or_le env.cvcGateErrorThreshold (-c.vth) with hlt | hge
      · exact .inr ⟨hle, hlt, hsource, hdrain⟩
      · exact .inl (.inl ⟨⟨hge, hsource⟩, hdrain⟩)
    · omega
  · rintro ((⟨⟨hle, hsource⟩, hdrain⟩ | ⟨-, ⟨hlt, -⟩, -⟩) | ⟨hle, -, hsource, hdrain⟩)
    · exact .inl ⟨⟨by omega, hsource⟩, hdrain⟩
    · omega
    · exact .inl ⟨⟨hle, hsource⟩, hdrain⟩

/-! ## The tests on the voltages of the device -/

/-- The source or the drain has a maximum voltage that the gate is below by more than the error threshold. -/
def Below (env : GateSourceEnv) (c : CFullConnection) (neg : Int → Int) : Prop :=
  ∃ t ∈ [c.source, c.drain], t.maxVoltage ≠ unknownVoltage ∧ env.cvcGateErrorThreshold < t.maxVoltage + neg c.gate.minVoltage

/-- The gate is at the threshold from the source or the drain, which is no error. -/
def AtVth (env : GateSourceEnv) (c : CFullConnection) (gatePower : Nat) (neg : Int → Int) : Prop :=
  (env.nets.power gatePower).type.minCalculatedBit = true ∧ env.cvcVthGates = false ∧
    ∃ t ∈ [c.source, c.drain], neg c.gate.minVoltage - neg t.minVoltage = -c.vth

/-- A device with related powers is an error. The check of the device and that of its dual differ in the start of the differences,
and in the way voltages are negated: the dual does not negate the mark for an unknown voltage. -/
@[mk_iff]
structure Errs (env : GateSourceEnv) (c : CFullConnection) (gatePower : Nat) (neg : Int → Int) (start : Int) : Prop where
  large : env.tooSmall c.vth (largestDifference c start) = false
  below : env.Below c neg
  atVth : ¬env.AtVth c gatePower neg

/-- The same environment on the dual nets. -/
@[simps]
def dual (env : GateSourceEnv) : GateSourceEnv := { env with nets := env.nets.dual }

theorem nmosFullyOn_iff (hne : c.source.netId ≠ c.drain.netId) : env.nmosFullyOn c = false ↔ env.Below c (-·) := by
  have hnets : (c.source.netId == c.drain.netId) = false := beq_false_of_ne hne
  unfold nmosFullyOn Below checkTerminalMaxVoltages
  simp only [hnets, Bool.false_and, Bool.or_false, all_cons, all_nil, Bool.and_true, mem_cons, not_mem_nil, or_false,
    exists_eq_or_imp, exists_eq_left]
  by_cases hsource : c.source.maxVoltage = unknownVoltage <;> by_cases hdrain : c.drain.maxVoltage = unknownVoltage <;>
    simp [hsource, hdrain]
  all_goals omega

theorem pmosFullyOn_dual_iff (hc : c.HasDual) (hne : c.source.netId ≠ c.drain.netId) :
    env.dual.pmosFullyOn c.dual = false ↔ env.Below c negate := by
  have hs := checkTerminalMinVoltages_dual [c.source] (by simp [hc.source])
  have hd := checkTerminalMinVoltages_dual [c.drain] (by simp [hc.drain])
  simp only [map_cons, map_nil] at hs hd
  have hnets : (c.source.netId == c.drain.netId) = false := beq_false_of_ne hne
  unfold pmosFullyOn Below
  simp only [dual_source, dual_drain, dual_gate, hs, hd, Terminal.dual_netId, hnets, Terminal.dual_maxVoltage,
    Terminal.dual_minVoltage,
    dual_cvcGateErrorThreshold, Bool.false_and, Bool.or_false, checkTerminalMaxVoltages, all_cons, all_nil, Bool.and_true,
    mem_cons, not_mem_nil, or_false, exists_eq_or_imp, exists_eq_left]
  by_cases hsource : c.source.maxVoltage = unknownVoltage <;> by_cases hdrain : c.drain.maxVoltage = unknownVoltage <;>
    simp [hsource, hdrain, negate_of_ne]
  all_goals omega

theorem nmosVthFlag_iff : (env.nmosVthFlag c gatePower = true → env.cvcVthGates = true) ↔ ¬env.AtVth c gatePower (-·) := by
  simp only [nmosVthFlag, AtVth, mem_cons, not_mem_nil, or_false, exists_eq_or_imp, exists_eq_left]
  grind

theorem pmosVthFlag_dual_iff :
    (env.dual.pmosVthFlag c.dual gatePower = true → env.cvcVthGates = true) ↔ ¬env.AtVth c gatePower negate := by
  simp only [pmosVthFlag, AtVth, mem_cons, not_mem_nil, or_false, exists_eq_or_imp, exists_eq_left, dual_nets,
    PowerNets.dual_power, CPower.dual_type, PowerType.dual_maxCalculatedBit, dual_gate, dual_source, dual_drain,
    Terminal.dual_maxVoltage, dual_vth]
  grind

/-! ## The checks -/

theorem relatedCheck_error_iff {vth difference : Int} {fullyOn vthFlag : Bool} {error : String → GateCheck}
    (herror : ∀ heading, error heading = .error heading) :
    (∃ heading, env.relatedCheck vth difference fullyOn vthFlag error = .error heading) ↔
      env.tooSmall vth difference = false ∧ fullyOn = false ∧ (vthFlag = true → env.cvcVthGates = true) := by
  unfold relatedCheck
  simp only [herror]
  cases env.tooSmall vth difference <;> cases fullyOn <;> cases vthFlag <;> cases env.cvcVthGates <;> simp

/-- The tests of an NMOS device whose powers are related. -/
theorem nmosRelatedCheck_error_iff (hne : c.source.netId ≠ c.drain.netId) :
    (∃ heading, env.nmosRelatedCheck c gatePower = .error heading) ↔ env.Errs c gatePower (-·) (min 0 c.vth) := by
  rw [errs_iff, ← nmosFullyOn_iff hne, ← nmosVthFlag_iff]
  exact relatedCheck_error_iff fun _ => rfl

/-- ... and of its dual. -/
theorem pmosRelatedCheck_dual_error_iff (hlogic : env.cvcLogicDiodes = false)
    (hne : c.source.netId ≠ c.drain.netId) (hc : c.HasDual)
    (hs : NoOverflow c.vth c.gate c.source) (hd : NoOverflow c.vth c.gate c.drain) :
    (∃ heading, env.dual.pmosRelatedCheck c.dual gatePower = .error heading) ↔ env.Errs c gatePower negate (max 0 (-c.vth)) := by
  rw [errs_iff, ← pmosFullyOn_dual_iff hc hne, ← pmosVthFlag_dual_iff, ← pmosMaxDifference_dual hc hs hd, ← Int.neg_neg c.vth]
  exact relatedCheck_error_iff fun heading => by simp [pmosError, hlogic]

/-- The checks of an NMOS device get to the powers of its terminals, with a power of the gate. -/
structure Entered (env : GateSourceEnv) (c : CFullConnection) (gatePower : Nat) : Prop where
  nmos : c.type.isNmos = true
  minPower : c.gate.minPower = some gatePower
  analog : ((env.nets.power gatePower).type.analogBit && !env.cvcAnalogGates) = false
  scrc : env.nets.isSCRCPower gatePower = false

theorem nmosGateVsSource_of_entered (h : env.Entered c gatePower) : env.nmosGateVsSource c = (do
      if ← env.isRelatedToBoth .min gatePower c.source.minPower c.drain.minPower then pure (env.nmosRelatedCheck c gatePower)
      else pure (.error "Unrelated power error")) := by
  unfold nmosGateVsSource decision
  simp [h.nmos, h.minPower, h.analog, h.scrc]

/-- The voltages of the power of the gate have duals. -/
def PowersHaveDuals (env : GateSourceEnv) (c : CFullConnection) : Prop :=
  ∀ p, c.gate.minPower = some p → HasDual (env.nets.power p).minVoltage ∧ HasDual (env.nets.power p).maxVoltage

theorem isSCRCPower_dual {nets : PowerNets} {p : Nat}
    (h : HasDual (nets.power p).minVoltage ∧ HasDual (nets.power p).maxVoltage) :
      nets.dual.isSCRCPower p = nets.isSCRCPower p := by
  unfold PowerNets.isSCRCPower
  simp [beq_negate h.2 h.1, BEq.comm]

theorem isRelatedToBoth_dual (gatePower : Nat) (sourcePower drainPower : Option Nat) :
    env.dual.isRelatedToBoth .max gatePower sourcePower drainPower =
      env.isRelatedToBoth .min gatePower sourcePower drainPower := by
  have h := fun q => PowerNets.isRelatedPower_dual env.nets env.rounds gatePower q .min .min true true
  unfold isRelatedToBoth
  simp only [dual_nets, dual_rounds]
  rw [show CalculatedBit.max = CalculatedBit.dual .min from rfl, h, h]

theorem pmosGateVsSource_dual_of_entered (hpowers : env.PowersHaveDuals c) (h : env.Entered c gatePower) :
    env.dual.pmosGateVsSource c.dual = (do
      if ← env.isRelatedToBoth .min gatePower c.source.minPower c.drain.minPower then
        pure (env.dual.pmosRelatedCheck c.dual gatePower)
      else pure (env.dual.pmosError c.dual gatePower "Unrelated power error")) := by
  have hscrc : env.nets.dual.isSCRCPower gatePower = false := by rw [isSCRCPower_dual (hpowers _ h.minPower), h.scrc]
  unfold pmosGateVsSource decision
  simp [ModelType.isPmos_dual, h.nmos, h.minPower, h.analog, hscrc, isRelatedToBoth_dual]

theorem pass_of_not_entered (hpowers : env.PowersHaveDuals c) (h : ∀ gatePower, ¬env.Entered c gatePower) :
    env.nmosGateVsSource c = .ok .pass ∧ env.dual.pmosGateVsSource c.dual = .ok .pass := by
  unfold nmosGateVsSource pmosGateVsSource decision
  simp only [dual_type, ModelType.isPmos_dual, dual_gate, Terminal.dual_maxPower]
  cases htype : c.type.isNmos with
  | false => exact ⟨rfl, rfl⟩
  | true =>
    cases hpower : c.gate.minPower with
    | none => exact ⟨rfl, rfl⟩
    | some p =>
      cases hanalog : (env.nets.power p).type.analogBit && !env.cvcAnalogGates with
      | true => simp [hanalog, pure, Except.pure]
      | false =>
        cases hscrc : env.nets.isSCRCPower p with
        | true => simp [isSCRCPower_dual (hpowers p hpower), hscrc, pure, Except.pure]
        | false => exact absurd ⟨htype, hpower, hanalog, hscrc⟩ (h p)

/-- Exactly one of two voltages is unknown, so that their difference is one with the mark. -/
def OneUnknown (v w : Int) : Prop := ¬(v = unknownVoltage ↔ w = unknownVoltage)

/-- The device is passed by a test with the mark for an unknown voltage: the gate is unknown, and no maximum voltage of the source
or the drain is over the mark by more than the error threshold. -/
def MarkFullyOn (env : GateSourceEnv) (c : CFullConnection) : Prop :=
  c.gate.minVoltage = unknownVoltage ∧
    ∀ t ∈ [c.source, c.drain], t.maxVoltage ≠ unknownVoltage → t.maxVoltage - unknownVoltage ≤ env.cvcGateErrorThreshold

/-- The gate is at the threshold from the mark, or the mark from the source or the drain. -/
def MarkAtVth (env : GateSourceEnv) (c : CFullConnection) (gatePower : Nat) (neg : Int → Int) : Prop :=
  (env.nets.power gatePower).type.minCalculatedBit = true ∧ env.cvcVthGates = false ∧
    ∃ t ∈ [c.source, c.drain], OneUnknown c.gate.minVoltage t.minVoltage ∧ neg c.gate.minVoltage - neg t.minVoltage = -c.vth

/-- The checks of an NMOS device get to its voltages, and a condition on its gate power holds. -/
def Compared (env : GateSourceEnv) (c : CFullConnection) (P : Nat → Prop) : Prop :=
  ∃ gatePower, env.Entered c gatePower ∧ env.isRelatedToBoth .min gatePower c.source.minPower c.drain.minPower = .ok true ∧
    P gatePower

/-- The dual of an NMOS device is an error and the device is passed: as a depletion device, or by the mark for an unknown voltage.
-/
def OnlyDualFlagged (env : GateSourceEnv) (c : CFullConnection) : Prop :=
  env.Compared c fun gatePower => env.Errs c gatePower negate (max 0 (-c.vth)) ∧
    (env.Depletion c ∨ env.MarkFullyOn c ∨ env.MarkAtVth c gatePower (-·))

/-- The NMOS device is an error and its dual is passed by the mark for an unknown voltage. -/
def OnlyDeviceFlagged (env : GateSourceEnv) (c : CFullConnection) : Prop :=
  env.Compared c fun gatePower => env.Errs c gatePower (-·) (min 0 c.vth) ∧ env.MarkAtVth c gatePower negate

theorem below_negate_iff : env.Below c (-·) ↔ env.Below c negate ∧ ¬env.MarkFullyOn c := by
  unfold Below MarkFullyOn
  simp only [mem_cons, not_mem_nil, or_false, exists_eq_or_imp, exists_eq_left, forall_eq_or_imp, forall_eq]
  by_cases hgate : c.gate.minVoltage = unknownVoltage
  · rw [hgate, negate_unknown]
    unfold unknownVoltage
    omega
  · simp [hgate, negate_of_ne hgate]

/-- Two known voltages, or two unknown ones, have the difference of their negatives. -/
theorem negate_sub_negate {v w : Int} (h : ¬OneUnknown v w) : negate v - negate w = -v - -w := by
  unfold OneUnknown at h
  by_cases hv : v = unknownVoltage
  · obtain rfl : w = v := by rw [hv]; tauto
    omega
  · have hw : w ≠ unknownVoltage := by tauto
    rw [negate_of_ne hv, negate_of_ne hw]

theorem AtVth.mark {neg neg' : Int → Int} (hneg : ∀ v w, ¬OneUnknown v w → neg v - neg w = neg' v - neg' w)
    (h : env.AtVth c gatePower neg) (hnot : ¬env.AtVth c gatePower neg') : env.MarkAtVth c gatePower neg := by
  obtain ⟨hbit, hgates, t, ht, hvth⟩ := h
  refine ⟨hbit, hgates, t, ht, ?_, hvth⟩
  by_contra hone
  exact hnot ⟨hbit, hgates, t, ht, hneg _ _ hone ▸ hvth⟩

theorem MarkAtVth.atVth {neg : Int → Int} (h : env.MarkAtVth c gatePower neg) : env.AtVth c gatePower neg := by
  obtain ⟨hbit, hgates, t, ht, -, hvth⟩ := h
  exact ⟨hbit, hgates, t, ht, hvth⟩

/-- The tests of the voltages flag a device and its dual together, but for depletion devices and marks. -/
theorem errs_dual_iff : (env.Errs c gatePower (-·) (min 0 c.vth) ↔ env.Errs c gatePower negate (max 0 (-c.vth))) ↔
    ¬(env.Errs c gatePower negate (max 0 (-c.vth)) ∧ (env.Depletion c ∨ env.MarkFullyOn c ∨ env.MarkAtVth c gatePower (-·))) ∧
      ¬(env.Errs c gatePower (-·) (min 0 c.vth) ∧ env.MarkAtVth c gatePower negate) := by
  have hsmall := @tooSmall_dual_iff env c
  have hbelow := @below_negate_iff env c
  constructor
  · intro hiff
    refine ⟨?_, ?_⟩
    · rintro ⟨hdual, hcause⟩
      have hdevice := hiff.2 hdual
      rcases hcause with h | h | h
      · exact absurd (hsmall.2 (.inr h)) (by simp [hdevice.large])
      · exact (hbelow.1 hdevice.below).2 h
      · exact hdevice.atVth h.atVth
    · rintro ⟨hdevice, h⟩
      exact (hiff.1 hdevice).atVth h.atVth
  · rintro ⟨honlyDual, honlyDevice⟩
    constructor
    · intro hdevice
      refine ⟨?_, (hbelow.1 hdevice.below).1, ?_⟩
      · rw [Bool.eq_false_iff]
        intro h
        exact absurd (hsmall.2 (.inl h)) (by simp [hdevice.large])
      · intro h
        exact honlyDevice ⟨hdevice, h.mark (fun _ _ => negate_sub_negate) hdevice.atVth⟩
    · intro hdual
      refine ⟨?_, hbelow.2 ⟨hdual.below, ?_⟩, ?_⟩
      · rw [Bool.eq_false_iff]
        intro h
        rcases hsmall.1 h with h | h
        · exact absurd h (by simp [hdual.large])
        · exact honlyDual ⟨hdual, .inl h⟩
      · intro h
        exact honlyDual ⟨hdual, .inr (.inl h)⟩
      · intro h
        exact honlyDual ⟨hdual, .inr (.inr (h.mark (fun _ _ hone => (negate_sub_negate hone).symm) hdual.atVth))⟩

theorem flags_ite {x : Except Failure Bool} {a b : GateCheck} : GateCheck.Flags (do if ← x then pure a else pure b) ↔
      x = .ok true ∧ (∃ heading, a = .error heading) ∨ x = .ok false ∧ ∃ heading, b = .error heading := by
  unfold GateCheck.Flags
  rcases x with e | r
  · constructor
    · rintro ⟨_, h⟩
      exact nomatch h
    · rintro (⟨h, _⟩ | ⟨h, _⟩) <;> exact nomatch h
  · cases r <;> simp [pure, Except.pure, bind, Except.bind]

/-- A condition on a device that is compared, at its gate power. -/
theorem compared_iff {P : Nat → Prop} (hp : env.Entered c gatePower)
    (hrelated : env.isRelatedToBoth .min gatePower c.source.minPower c.drain.minPower = .ok true) :
      env.Compared c P ↔ P gatePower := by
  constructor
  · rintro ⟨q, hq, -, h⟩
    rwa [Option.some.inj (hp.minPower.symm.trans hq.minPower)]
  · intro h
    exact ⟨gatePower, hp, hrelated, h⟩

theorem not_compared {P : Nat → Prop} (hp : env.Entered c gatePower)
    (hrelated : env.isRelatedToBoth .min gatePower c.source.minPower c.drain.minPower ≠ .ok true) : ¬env.Compared c P := by
  rintro ⟨q, hq, hok, -⟩
  rw [Option.some.inj (hq.minPower.symm.trans hp.minPower)] at hok
  exact hrelated hok

/-- A gate versus source check flags an NMOS device exactly when it flags the dual PMOS device, but for the devices that are
passed as depletion devices, or that are passed on one side because the mark for an unknown voltage is taken for a voltage. -/
theorem gateVsSource_dual_iff (env : GateSourceEnv) (c : CFullConnection) (hlogic : env.cvcLogicDiodes = false)
    (hne : c.source.netId ≠ c.drain.netId) (hc : c.HasDual) (hpowers : env.PowersHaveDuals c)
    (hs : NoOverflow c.vth c.gate c.source) (hd : NoOverflow c.vth c.gate c.drain) :
    (GateCheck.Flags (env.nmosGateVsSource c) ↔ GateCheck.Flags (env.dual.pmosGateVsSource c.dual)) ↔
      ¬env.OnlyDualFlagged c ∧ ¬env.OnlyDeviceFlagged c := by
  by_cases hentered : ∃ gatePower, env.Entered c gatePower
  · obtain ⟨p, hp⟩ := hentered
    have herror : env.dual.pmosError c.dual p "Unrelated power error" = .error "Unrelated power error" := by
      simp [pmosError, hlogic]
    rw [nmosGateVsSource_of_entered hp, pmosGateVsSource_dual_of_entered hpowers hp, flags_ite, flags_ite, herror]
    unfold OnlyDualFlagged OnlyDeviceFlagged
    rcases hrelated : env.isRelatedToBoth .min p c.source.minPower c.drain.minPower with e | r
    · have hnot := fun P => @not_compared env c p P hp (by simp [hrelated])
      simp [hnot]
    cases r with
    | false =>
      have hnot := fun P => @not_compared env c p P hp (by simp [hrelated])
      simp [hnot]
    | true =>
      rw [compared_iff hp hrelated, compared_iff hp hrelated, nmosRelatedCheck_error_iff hne,
        pmosRelatedCheck_dual_error_iff hlogic hne hc hs hd]
      simp only [true_and, Except.ok.injEq, Bool.true_eq_false, false_and, or_false]
      exact errs_dual_iff
  · have hnot := fun p h => hentered ⟨p, h⟩
    rw [(pass_of_not_entered hpowers hnot).1, (pass_of_not_entered hpowers hnot).2]
    refine iff_of_true .rfl ⟨?_, ?_⟩
    all_goals
      rintro ⟨p, hp, -⟩
      exact hnot p hp

end

/-! ## Two devices -/

/-- A power at one net. -/
def onePower : GateSourceEnv where
  nets := { power := fun _ => { netId := 0 }, netVoltagePtr := fun _ => some 0, next := fun _ net => net }
  rounds := 1

/-- A device with its gate at 0 V, and source and drain at 1 V. -/
def deviceWithVth (vth : Int) : CFullConnection where
  gate := { netId := 0, minVoltage := 0, maxVoltage := 0, minPower := some 0, maxPower := some 0 }
  source := { netId := 1, minVoltage := 1000, maxVoltage := 1000, minPower := some 0, maxPower := some 0 }
  drain := { netId := 2, minVoltage := 1000, maxVoltage := 1000, minPower := some 0, maxPower := some 0 }
  type := .nmos
  vth := vth

theorem deviceWithVth_hasDual (vth : Int) : (deviceWithVth vth).HasDual := by
  constructor <;> constructor <;> simp [deviceWithVth, HasDual, maxVoltage, unknownVoltage]

theorem onePower_powersHaveDuals (vth : Int) : onePower.PowersHaveDuals (deviceWithVth vth) := fun _ _ => ⟨.inl rfl, .inl rfl⟩

/-- An enhancement device and its dual. -/
theorem enhancement_flags_iff :
    GateCheck.Flags (onePower.nmosGateVsSource (deviceWithVth 500)) ↔
      GateCheck.Flags (onePower.dual.pmosGateVsSource (deviceWithVth 500).dual) := by
  have h := gateVsSource_dual_iff onePower (deviceWithVth 500) rfl (by decide) (deviceWithVth_hasDual 500)
    (onePower_powersHaveDuals 500) (fun _ _ => by decide) (fun _ _ => by decide)
  refine h.2 ⟨?_, ?_⟩
  · rintro ⟨_, _, _, _, ⟨hvth, _⟩ | ⟨hgate, _⟩ | ⟨hbit, _⟩⟩
    · exact absurd hvth (by decide)
    · exact absurd hgate (by decide)
    · exact absurd hbit Bool.false_ne_true
  · rintro ⟨_, _, _, _, hbit, _⟩
    exact absurd hbit Bool.false_ne_true

/-- A depletion device that passes as NMOS, and whose dual is an error as PMOS. -/
theorem depletion_dual_flagged :
    onePower.cvcLogicDiodes = false ∧ (deviceWithVth (-500)).source.netId ≠ (deviceWithVth (-500)).drain.netId ∧
      (deviceWithVth (-500)).HasDual ∧ onePower.PowersHaveDuals (deviceWithVth (-500)) ∧
      NoOverflow (-500) (deviceWithVth (-500)).gate (deviceWithVth (-500)).source ∧
      NoOverflow (-500) (deviceWithVth (-500)).gate (deviceWithVth (-500)).drain ∧
      onePower.nmosGateVsSource (deviceWithVth (-500)) = .ok .pass ∧
      onePower.dual.pmosGateVsSource (deviceWithVth (-500)).dual = .ok (.error "") :=
  ⟨rfl, by decide, deviceWithVth_hasDual _, onePower_powersHaveDuals _, fun _ _ => by decide, fun _ _ => by decide, rfl, rfl⟩

end GateSourceEnv
end Cvc
