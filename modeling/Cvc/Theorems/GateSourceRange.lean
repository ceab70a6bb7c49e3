import Cvc.Theorems.GateSourceDuality

/-!
# Gate versus source checks and exact differences

The differences of the gate and the source or drain are stored in 16 bits, and so is the sum of the source and the threshold that
they are taken from. A gate far enough over its source therefore has a difference under zero and passes, a gate far enough under
its source has one over the error threshold, and a source near the largest voltage is replaced by a sum that wrapped.
`gateVsSource_exact_iff` says for which enhancement devices the decision is still that of the exact differences.
-/

namespace Cvc

/-- The voltages of [`MIN_VOLTAGE`, `MAX_VOLTAGE`]. -/
def InRange (v : Int) : Prop := -unknownVoltage ≤ v ∧ v ≤ maxVoltage
  deriving Decidable

theorem InRange.ne_unknown {v : Int} (h : InRange v) : v ≠ unknownVoltage := by
  unfold InRange maxVoltage at h
  omega

/-- The source and the drain, as far as the difference with the gate counts when all voltages are known. -/
def CFullConnection.counted (c : CFullConnection) : List Terminal :=
  (if c.gate.netId = c.drain.netId then [] else [c.source]) ++ if c.gate.netId = c.source.netId then [] else [c.drain]

/-- A difference `d` is over the limit once it is stored in 16 bits. With `carries`, the sum with a threshold of size `vth` that
it is taken from left the 16 bits. -/
def StoredOver ( carries : Bool) (vth limit d : Int) : Prop :=
  if carries then limit - 2 ^ 16 < d - vth ∧ d - vth < -2 ^ 15
  else limit < d ∧ d < 2 ^ 15 ∨ limit - 2 ^ 16 < d ∧ d < -2 ^ 15
  deriving Decidable

namespace GateSourceEnv

variable {env : GateSourceEnv} {c : CFullConnection} {p : Nat}

/-- `FindNmosGateVsSourceErrors` with all differences in unbounded integers. -/
def exactNmosGateVsSource (env : GateSourceEnv) (c : CFullConnection) : Except Failure GateCheck :=
  let difference := maxDifference c checkTerminalMinVoltages
    (fun t => c.gate.minVoltage - min t.minVoltage (t.minVoltage + c.vth)) (min 0 c.vth)
  if !c.type.isNmos then pure .pass
  else env.decision c.gate.minPower (fun p => env.isRelatedToBoth .min p c.source.minPower c.drain.minPower)
    (fun p => env.relatedCheck c.vth difference (env.nmosFullyOn c) (env.nmosVthFlag c p) .error) fun _ =>
      .error "Unrelated power error"

/-- `FindPmosGateVsSourceErrors` with all differences in unbounded integers. -/
def exactPmosGateVsSource (env : GateSourceEnv) (c : CFullConnection) : Except Failure GateCheck :=
  let difference := maxDifference c checkTerminalMaxVoltages
    (fun t => max t.maxVoltage (t.maxVoltage + c.vth) - c.gate.maxVoltage) (max 0 c.vth)
  if !c.type.isPmos then pure .pass
  else env.decision c.gate.maxPower (fun p => env.isRelatedToBoth .max p c.source.maxPower c.drain.maxPower)
    (fun p => env.relatedCheck (-c.vth) difference (env.pmosFullyOn c) (env.pmosVthFlag c p) (env.pmosError c p))
    fun p => env.pmosError c p "Unrelated power error"

/-! ## When the decisions agree -/

/-- The largest difference that is too small for an error of a device with a threshold of size `vth`. -/
def limit (env : GateSourceEnv) (vth : Int) : Int :=
  if env.cvcMinVthGates then max env.cvcGateErrorThreshold (vth - 1) else env.cvcGateErrorThreshold

/-- The gate is not checked, whatever the voltages are. -/
def Skipped (env : GateSourceEnv) (gatePower : Nat) : Prop :=
  ((env.nets.power gatePower).type.analogBit && !env.cvcAnalogGates) = true ∨ env.nets.isSCRCPower gatePower = true

/-- An enhancement NMOS device with related powers and known min voltages. -/
structure NmosRelated (env : GateSourceEnv) (c : CFullConnection) (gatePower : Nat) : Prop where
  nmos : c.type.isNmos = true
  minPower : c.gate.minPower = some gatePower
  related : env.isRelatedToBoth .min gatePower c.source.minPower c.drain.minPower = .ok true
  vth : 0 ≤ c.vth ∧ Fits c.vth
  known : ∀ t ∈ [c.gate, c.source, c.drain], InRange t.minVoltage

/-- An enhancement PMOS device with related powers and known max voltages. -/
structure PmosRelated (env : GateSourceEnv) (c : CFullConnection) (gatePower : Nat) : Prop where
  pmos : c.type.isPmos = true
  maxPower : c.gate.maxPower = some gatePower
  related : env.isRelatedToBoth .max gatePower c.source.maxPower c.drain.maxPower = .ok true
  vth : c.vth ≤ 0 ∧ Fits c.vth
  known : ∀ t ∈ [c.gate, c.source, c.drain], InRange t.maxVoltage

theorem tooSmall_iff {vth d : Int} : env.tooSmall vth d = true ↔ d ≤ env.limit vth := by
  unfold tooSmall limit
  cases env.cvcMinVthGates with
  | false => simp
  | true =>
    simp only [Bool.true_and, Bool.or_eq_true, decide_eq_true_eq, if_true]
    omega

/-- The largest difference is at most `l` when the differences that count are, from zero on. -/
theorem largest_le_iff {known : List Terminal → Bool} (hknown : ∀ t ∈ [c.source, c.drain], known [c.gate, t] = true)
    (d : Terminal → Int) (l : Int) : maxDifference c known d 0 ≤ l ↔ 0 ≤ l ∧ ∀ t ∈ c.counted, d t ≤ l := by
  unfold maxDifference CFullConnection.counted
  rw [raiseTo_le_iff, raiseTo_le_iff, and_assoc, hknown _ (by simp), hknown _ (by simp)]
  by_cases hdrain : c.gate.netId = c.drain.netId <;> by_cases hsource : c.gate.netId = c.source.netId <;>
    simp [hdrain]

theorem decision_eq_iff {related : Nat → Except Failure Bool} {check check' unrelated : Nat → GateCheck}
    (hrelated : related p = .ok true) :
      env.decision (some p) related check unrelated = env.decision (some p) related check' unrelated ↔
      env.Skipped p ∨ check p = check' p := by
  unfold decision Skipped
  simp only [hrelated]
  cases (env.nets.power p).type.analogBit && !env.cvcAnalogGates with
  | true => simp
  | false => cases env.nets.isSCRCPower p <;> simp [bind, Except.bind, pure, Except.pure]

/-! ## The stored differences -/

theorem lt_int16_iff {l x : Int} (hl : 0 ≤ l) (hx : -2 ^ 16 < x ∧ x < 2 ^ 16) :
    l < int16 x ↔ l < x ∧ x < 2 ^ 15 ∨ l - 2 ^ 16 < x ∧ x < -2 ^ 15 := by
  unfold int16
  rw [Int.bmod_def]
  split <;> omega

theorem lt_nmosDifference_iff {vth l : Int} {gate t : Terminal} (hvth : 0 ≤ vth ∧ Fits vth) (hgate : InRange gate.minVoltage)
    (ht : InRange t.minVoltage) (hl : 0 ≤ l) : l < nmosDifference vth gate t ↔
      StoredOver (decide (2 ^ 15 ≤ t.minVoltage + vth)) vth l (gate.minVoltage - t.minVoltage) := by
  unfold Fits InRange maxVoltage unknownVoltage at *
  have hmin : minVoltageOf t.minVoltage (t.minVoltage + vth) =
      if 2 ^ 15 ≤ t.minVoltage + vth then t.minVoltage + vth - 2 ^ 16 else t.minVoltage := by
    unfold minVoltageOf int16
    rw [Int.bmod_def]
    split <;> split <;> omega
  unfold nmosDifference StoredOver
  rw [hmin, lt_int16_iff hl (by split <;> omega)]
  simp only [decide_eq_true_eq]
  split <;> omega

theorem lt_pmosDifference_iff {vth l : Int} {gate t : Terminal} (hvth : vth ≤ 0 ∧ Fits vth) (hgate : InRange gate.maxVoltage)
    (ht : InRange t.maxVoltage) (hl : 0 ≤ l) : l < pmosDifference vth gate t ↔
      StoredOver (decide (t.maxVoltage + vth < -2 ^ 15)) (-vth) l (t.maxVoltage - gate.maxVoltage) := by
  unfold Fits InRange maxVoltage unknownVoltage at *
  have hmax : maxVoltageOf t.maxVoltage (t.maxVoltage + vth) =
      if t.maxVoltage + vth < -2 ^ 15 then t.maxVoltage + vth + 2 ^ 16 else t.maxVoltage := by
    unfold maxVoltageOf int16
    rw [Int.bmod_def]
    split <;> split <;> omega
  unfold pmosDifference StoredOver
  rw [hmax, lt_int16_iff hl (by split <;> omega)]
  simp only [decide_eq_true_eq]
  split <;> omega

/-! ## The decisions -/

/-- Two checks that differ in their largest difference agree when the later tests pass the device, or one of the differences that
count is over the limit in both of them or in none. -/
theorem check_eq_iff {vth m m' : Int} {d d' : Terminal → Int} {exceeds : Terminal → Prop} {rest : GateCheck}
    (hm : ∀ l, m ≤ l ↔ 0 ≤ l ∧ ∀ t ∈ c.counted, d t ≤ l) (hm' : ∀ l, m' ≤ l ↔ 0 ≤ l ∧ ∀ t ∈ c.counted, d' t ≤ l)
    (hover : ∀ t ∈ [c.source, c.drain], 0 ≤ env.limit vth → (env.limit vth < d t ↔ exceeds t)) :
    (if env.tooSmall vth m then GateCheck.pass else rest) = (if env.tooSmall vth m' then .pass else rest) ↔
      rest = .pass ∨ env.limit vth < 0 ∨ ((∃ t ∈ c.counted, env.limit vth < d' t) ↔ ∃ t ∈ c.counted, exceeds t) := by
  have hsub : ∀ t ∈ c.counted, t ∈ [c.source, c.drain] := by
    unfold CFullConnection.counted
    intro t ht
    split at ht <;> split at ht <;> simp_all
  have hite : (if env.tooSmall vth m then GateCheck.pass else rest) = (if env.tooSmall vth m' then .pass else rest) ↔
      rest = .pass ∨ (env.tooSmall vth m' = false ↔ env.tooSmall vth m = false) := by
    cases env.tooSmall vth m <;> cases env.tooSmall vth m' <;> simp [eq_comm]
  rw [hite, ← Bool.not_eq_true, ← Bool.not_eq_true, tooSmall_iff, tooSmall_iff, hm, hm']
  rcases Int.lt_or_le (env.limit vth) 0 with hneg | hpos
  · simp [hneg, Int.not_le.2 hneg]
  · simp only [hpos, true_and, Int.not_lt.2 hpos, false_or, Classical.not_forall, Int.not_le, exists_prop]
    rw [exists_congr fun t => and_congr_right fun ht => hover t (hsub t ht) hpos]

theorem pmosError_ne_pass (heading : String) : env.pmosError c p heading ≠ .pass := by
  unfold pmosError
  split <;> simp

/-- The checks after the largest difference pass when the gate is fully on or at the threshold. -/
theorem rest_eq_pass_iff {on flag vthGates : Bool} {a b : GateCheck} (ha : a ≠ .pass) (hb : b ≠ .pass) :
    (if on then .pass else if flag then if vthGates then a else .pass else b) = GateCheck.pass ↔
      on = true ∨ flag = true ∧ vthGates = false := by
  cases on <;> cases flag <;> cases vthGates <;> simp [ha, hb]

/-- The checks of the gate against the source decide as with exact differences, for the enhancement NMOS and PMOS devices with
known voltages in range, exactly when a later test passes the device or the stored differences are over the limit with the exact
ones. -/
theorem gateVsSource_exact_iff (env : GateSourceEnv) (c : CFullConnection) (p : Nat) :
    (env.NmosRelated c p → (env.nmosGateVsSource c = env.exactNmosGateVsSource c ↔
      env.Skipped p ∨ (env.nmosFullyOn c = true ∨ env.nmosVthFlag c p = true ∧ env.cvcVthGates = false) ∨ env.limit c.vth < 0 ∨
        ((∃ t ∈ c.counted, env.limit c.vth < c.gate.minVoltage - t.minVoltage) ↔
          ∃ t ∈ c.counted, StoredOver (decide (2 ^ 15 ≤ t.minVoltage + c.vth)) c.vth (env.limit c.vth)
            (c.gate.minVoltage - t.minVoltage)))) ∧
    (env.PmosRelated c p → (env.pmosGateVsSource c = env.exactPmosGateVsSource c ↔
      env.Skipped p ∨ (env.pmosFullyOn c = true ∨ env.pmosVthFlag c p = true ∧ env.cvcVthGates = false) ∨ env.limit (-c.vth) < 0 ∨
        ((∃ t ∈ c.counted, env.limit (-c.vth) < t.maxVoltage - c.gate.maxVoltage) ↔
          ∃ t ∈ c.counted, StoredOver (decide (t.maxVoltage + c.vth < -2 ^ 15)) (-c.vth) (env.limit (-c.vth))
            (t.maxVoltage - c.gate.maxVoltage)))) := by
  constructor
  · intro h
    have hg := h.known c.gate (by simp)
    have hknown : ∀ t ∈ [c.source, c.drain], InRange t.minVoltage := fun t ht => h.known t (List.mem_cons_of_mem _ ht)
    have hcheck : ∀ t ∈ [c.source, c.drain], checkTerminalMinVoltages [c.gate, t] = true := fun t ht => by
      simp [checkTerminalMinVoltages, hg.ne_unknown, (hknown t ht).ne_unknown]
    unfold nmosGateVsSource exactNmosGateVsSource nmosRelatedCheck nmosMaxDifference
    simp only [h.nmos, h.minPower, Bool.not_true, Bool.false_eq_true, if_false, Int.min_eq_left h.vth.1,
      Int.min_eq_left (Int.le_add_of_nonneg_right h.vth.1)]
    rw [decision_eq_iff h.related]
    unfold relatedCheck
    rw [check_eq_iff (largest_le_iff hcheck (nmosDifference c.vth c.gate))
      (largest_le_iff hcheck fun t => c.gate.minVoltage - t.minVoltage)
      fun t ht => lt_nmosDifference_iff h.vth hg (hknown t ht), rest_eq_pass_iff (by simp) (by simp)]
  · intro h
    have hg := h.known c.gate (by simp)
    have hknown : ∀ t ∈ [c.source, c.drain], InRange t.maxVoltage := fun t ht => h.known t (List.mem_cons_of_mem _ ht)
    have hcheck : ∀ t ∈ [c.source, c.drain], checkTerminalMaxVoltages [c.gate, t] = true := fun t ht => by
      simp [checkTerminalMaxVoltages, hg.ne_unknown, (hknown t ht).ne_unknown]
    have hmax : ∀ v : Int, max v (v + c.vth) = v := fun v => Int.max_eq_left (by have := h.vth.1; omega)
    unfold pmosGateVsSource exactPmosGateVsSource pmosRelatedCheck pmosMaxDifference
    simp only [h.pmos, h.maxPower, Bool.not_true, Bool.false_eq_true, if_false, Int.max_eq_left h.vth.1, hmax]
    rw [decision_eq_iff h.related]
    unfold relatedCheck
    rw [check_eq_iff (largest_le_iff hcheck (pmosDifference c.vth c.gate))
      (largest_le_iff hcheck fun t => t.maxVoltage - c.gate.maxVoltage)
      fun t ht => lt_pmosDifference_iff h.vth hg (hknown t ht), rest_eq_pass_iff (pmosError_ne_pass _) (pmosError_ne_pass _)]

/-! ## Three devices -/

/-- An NMOS device with the given min voltages of its gate and its source and drain, which can also be at the largest voltage. -/
def deviceAt (gate source : Int) : CFullConnection where
  gate := { netId := 0, minVoltage := gate, maxVoltage := gate, minPower := some 0, maxPower := some 0 }
  source := { netId := 1, minVoltage := source, maxVoltage := maxVoltage, minPower := some 0, maxPower := some 0 }
  drain := { netId := 2, minVoltage := source, maxVoltage := maxVoltage, minPower := some 0, maxPower := some 0 }
  type := .nmos
  vth := 500

/-- A gate 1 V over its source, and the dual device. -/
theorem gateVsSource_exact_small :
    onePower.nmosGateVsSource (deviceAt 1000 0) = onePower.exactNmosGateVsSource (deviceAt 1000 0) ∧
    onePower.pmosGateVsSource (deviceAt 1000 0).dual = onePower.exactPmosGateVsSource (deviceAt 1000 0).dual :=
  ⟨((gateVsSource_exact_iff onePower (deviceAt 1000 0) 0).1 ⟨rfl, rfl, rfl, by decide, by decide⟩).2
    (.inr (.inr (.inr (by decide)))),
    ((gateVsSource_exact_iff onePower (deviceAt 1000 0).dual 0).2 ⟨rfl, rfl, rfl, by decide, by decide⟩).2
      (.inr (.inr (.inr (by decide))))⟩

/-- A gate 40 V over its source is an error in unbounded integers, and is dropped. -/
theorem nmosGateVsSource_drops_overdrive : onePower.NmosRelated (deviceAt 20000 (-20000)) 0 ∧
    onePower.nmosGateVsSource (deviceAt 20000 (-20000)) = .ok .pass ∧
    onePower.exactNmosGateVsSource (deviceAt 20000 (-20000)) = .ok (.error "") :=
  ⟨⟨rfl, rfl, rfl, by decide, by decide⟩, rfl, rfl⟩

end GateSourceEnv
end Cvc
