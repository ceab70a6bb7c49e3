import Cvc.Dual
import Cvc.SourceBulk

/-!
# Source and drain versus bulk checks on a device and on its dual

The tests of an NMOS device are those of the dual PMOS device in another order, and each counts the same error. One pair differs:
the test of the sim voltage against a Hi-Z bulk compares with the far voltage of the bulk also when it is unknown, and the mark
for an unknown voltage is over every voltage, so the NMOS test holds and the PMOS test fails. `sourceVsBulk_dual_iff` says that a
device and its dual differ exactly when this decides.
-/

namespace Cvc

open CFullConnection List

namespace BulkEnv

/-- The environment of the dual device: the relation of the powers is carried over by the exchange of the nets. -/
@[simps]
def dual (env : BulkEnv) : BulkEnv :=
  { env with
    nets := env.nets.dual
    isRelatedPower := fun p q bit testBit => env.isRelatedPower p q bit.dual testBit.dual }

section
variable {env : BulkEnv} {c : CFullConnection} {t : Terminal} {bulkPower r b : Nat} {known known' : Bool}
  {difference difference' : Int}

theorem defaultNet_dual (power : Option Nat) : env.dual.defaultNet .min power = env.defaultNet .max power := by
  cases power <;> rfl

theorem hasPower_dual : hasPower c.dual = hasPower c := by
  unfold hasPower
  simp only [dual_source, dual_drain, Terminal.dual_minPower]
  ac_rfl

theorem pmosNoBias_dual (hc : c.HasDual) : pmosNoBias c.dual = nmosNoBias c := by
  show noBias (negate _) (negate _) (negate _) = noBias _ _ _
  unfold noBias
  rw [beq_negate hc.bulk.maxVoltage hc.source.minVoltage, beq_negate hc.bulk.maxVoltage hc.drain.minVoltage,
    hc.source.minVoltage.beq_unknown, hc.drain.minVoltage.beq_unknown]

/-- A forward bias of negated voltages. -/
theorem forwardBias_negate {v w : Int} (hv : HasDual v) (hw : HasDual w) (hknown' : known' = known)
    (hknown : known = true → v ≠ unknownVoltage ∧ w ≠ unknownVoltage) :
    env.dual.forwardBias known' (negate w - negate v) (negate w == negate v) r b = env.forwardBias known (v - w)
      (w == v) r b := by
  subst hknown'
  cases known' with
  | false => rfl
  | true =>
    obtain ⟨hv', hw'⟩ := hknown rfl
    rw [beq_negate hw hv, negate_of_ne hv', negate_of_ne hw', show -w - -v = v - w by omega]
    rfl

theorem farBias_congr {fromBulk same same' noLeak noLeak' isHiz path : Bool} (hknown : known' = known)
    (h : known = true → difference' = difference ∧ same' = same ∧ noLeak' = noLeak) :
    env.dual.farBias known' difference' fromBulk same' noLeak' r b isHiz path =
      env.farBias known difference fromBulk same noLeak r b isHiz path := by
  subst hknown
  cases known' with
  | false => rfl
  | true =>
    obtain ⟨rfl, rfl, rfl⟩ := h rfl
    rfl

theorem pmosMaxBias_dual (hc : c.HasDual) (ht : t.HasDual) : env.dual.pmosMaxBias c.dual t.dual = env.nmosMinBias c t :=
  forwardBias_negate hc.bulk.minVoltage ht.minVoltage (checkTerminalMaxVoltages_dual [c.bulk, t] (by simp [hc.bulk, ht]))
    (by simp [checkTerminalMinVoltages])

theorem pmosSimBias_dual (hc : c.HasDual) (ht : t.HasDual) : env.dual.pmosSimBias c.dual t.dual = env.nmosSimBias c t :=
  forwardBias_negate hc.bulk.simVoltage ht.simVoltage (checkTerminalSimVoltages_dual [c.bulk, t] (by simp [hc.bulk, ht]))
    (by simp [checkTerminalSimVoltages])

theorem pmosMinBias_dual (hc : c.HasDual) (ht : t.HasDual) : env.dual.pmosMinBias c.dual t.dual = env.nmosMaxBias c t := by
  have hhiz : env.dual.nets.isHiz c.dual.bulk.maxPower = env.nets.isHiz c.bulk.minPower := PowerNets.isHiz_dual _ _
  have hdefault := @defaultNet_dual env t.maxPower
  unfold pmosMinBias
  refine farBias_congr (checkTerminalMinVoltages_dual [c.bulk, t] (by simp [hc.bulk, ht])) fun hknown => ?_
  simp only [checkTerminalMaxVoltages, all_cons, all_nil, Bool.and_true, Bool.and_eq_true, bne_iff_ne] at hknown
  refine ⟨?_, beq_negate ht.maxVoltage hc.bulk.maxVoltage, congrArg (!·) (beq_negate ht.maxVoltage hc.bulk.minVoltage)⟩
  simp only [dual_bulk, Terminal.dual_minVoltage, negate_of_ne hknown.1, negate_of_ne hknown.2]
  omega

theorem pmosBias_dual (hc : c.HasDual) : env.dual.pmosBias c.dual = env.nmosBias c := by
  have hbulk := checkTerminalMaxVoltages_dual [c.bulk] (by simp [hc.bulk])
  unfold pmosBias nmosBias bias
  simp only [dual_bulk, dual_source, dual_drain, hasPower_dual,
    pmosMinBias_dual hc hc.source, pmosMinBias_dual hc hc.drain, pmosSimBias_dual hc hc.source, pmosSimBias_dual hc hc.drain,
    pmosMaxBias_dual hc hc.source, pmosMaxBias_dual hc hc.drain]
  rw [show checkTerminalMaxVoltages [c.bulk.dual] = _ from hbulk]
  split
  · rfl
  · ac_rfl

/-! ## A Hi-Z bulk -/

/-- The tests of a terminal against a Hi-Z bulk, but for that of the sim voltage. -/
def hizUnrelated (env : BulkEnv) (bulkPower : Nat) (t : Terminal) : Bool :=
  env.unrelated .min .min bulkPower t.minPower || env.unrelated .min .max bulkPower t.maxPower

theorem unrelatedSim_dual (hmapped : t.Mapped env.nets) (ht : t.HasDual) :
    env.dual.unrelatedSim .max bulkPower t.simPower = env.unrelatedSim .min bulkPower t.simPower := by
  cases hpower : t.simPower with
  | none => rfl
  | some q =>
    have hv : t.simVoltage = (env.nets.power q).simVoltage := by
      rw [hmapped.simVoltage, hpower]
      rfl
    have hdual : (negate (env.nets.power q).simVoltage != unknownVoltage) =
      ((env.nets.power q).simVoltage != unknownVoltage) := by
      rw [← hv, bne, bne, ht.simVoltage.beq_unknown]
    show (negate (env.nets.power q).simVoltage != unknownVoltage && _) = _
    rw [hdual]
    rfl

theorem simVoltage_ne_of_unrelatedSim (hmapped : t.Mapped env.nets)
    (h : env.unrelatedSim .min bulkPower t.simPower = true) : t.simVoltage ≠ unknownVoltage := by
  rw [hmapped.simVoltage]
  cases hpower : t.simPower with
  | none =>
    rw [hpower] at h
    exact nomatch h
  | some q =>
    rw [hpower] at h
    simp only [unrelatedSim, Option.any_some, Bool.and_eq_true, bne_iff_ne] at h
    exact h.1

/-- The test of the sim voltage of an NMOS device holds for a power that is not related, if the far voltage of the bulk is
unknown. -/
theorem nmosHizError_eq (hmapped : t.Mapped env.nets) (ht : t.HasDual) (hmax : c.bulk.maxVoltage = unknownVoltage) :
    env.nmosHizError c bulkPower t = (env.hizUnrelated bulkPower t || env.unrelatedSim .min bulkPower t.simPower) := by
  have hsim : (env.unrelatedSim .min bulkPower t.simPower && decide (t.simVoltage < c.bulk.maxVoltage)) =
      env.unrelatedSim .min bulkPower t.simPower := by
    cases h : env.unrelatedSim .min bulkPower t.simPower with
    | false => rfl
    | true =>
      have hknown := simVoltage_ne_of_unrelatedSim hmapped h
      have hdual := ht.simVoltage
      rw [hmax, Bool.true_and, decide_eq_true_eq]
      unfold HasDual maxVoltage unknownVoltage at *
      omega
  unfold nmosHizError hizError hizUnrelated
  rw [hsim]
  ac_rfl

/-- The test of the sim voltage of the dual device fails, if the far voltage of the bulk is unknown. -/
theorem pmosHizError_dual_eq (ht : t.HasDual) (hmax : c.bulk.maxVoltage = unknownVoltage) :
    env.dual.pmosHizError c.dual bulkPower t.dual = env.hizUnrelated bulkPower t := by
  have hsim : (env.dual.unrelatedSim .max bulkPower t.simPower && decide (negate t.simVoltage > negate c.bulk.maxVoltage)) =
    false := by
    have hdual := ht.simVoltage
    have hlt : ¬negate t.simVoltage > unknownVoltage := by
      unfold negate HasDual maxVoltage unknownVoltage at *
      split <;> omega
    rw [hmax, negate_unknown, decide_eq_false hlt, Bool.and_false]
  show (_ || (env.dual.unrelatedSim .max bulkPower t.simPower && decide (negate t.simVoltage > negate c.bulk.maxVoltage)) || _) =
    _
  rw [hsim, Bool.or_false]
  exact Bool.or_comm _ _

/-- With a known far voltage of the bulk, the tests of a terminal are those of the dual. -/
theorem pmosHizError_dual (hmapped : t.Mapped env.nets) (ht : t.HasDual) (hmax : c.bulk.maxVoltage ≠ unknownVoltage) :
    env.dual.pmosHizError c.dual bulkPower t.dual = env.nmosHizError c bulkPower t := by
  have hsim : (env.dual.unrelatedSim .max bulkPower t.simPower && decide (negate t.simVoltage > negate c.bulk.maxVoltage)) =
      (env.unrelatedSim .min bulkPower t.simPower && decide (t.simVoltage < c.bulk.maxVoltage)) := by
    rw [unrelatedSim_dual hmapped ht]
    cases h : env.unrelatedSim .min bulkPower t.simPower with
    | false => rfl
    | true =>
      rw [negate_of_ne hmax, negate_of_ne (simVoltage_ne_of_unrelatedSim hmapped h), Bool.true_and, Bool.true_and,
        decide_eq_decide]
      omega
  show (env.unrelated .min .max bulkPower t.maxPower ||
    (env.dual.unrelatedSim .max bulkPower t.simPower && decide (negate t.simVoltage > negate c.bulk.maxVoltage)) ||
    env.unrelated .min .min bulkPower t.minPower) = _
  rw [hsim]
  unfold nmosHizError hizError
  ac_rfl

/-- A sim power that is not related to a Hi-Z bulk of unknown max voltage is all that makes an error. -/
def SimDecides (env : BulkEnv) (c : CFullConnection) (bulkPower : Nat) : Prop :=
  c.bulk.maxVoltage = unknownVoltage ∧ env.hizUnrelated bulkPower c.source = false ∧ env.hizUnrelated bulkPower c.drain = false ∧
    (env.unrelatedSim .min bulkPower c.source.simPower = true ∨ env.unrelatedSim .min bulkPower c.drain.simPower = true)

theorem hizBulk_dual_iff (hmapped : c.Mapped env.nets) (hc : c.HasDual)
    (hnets : (c.source.netId == c.bulk.netId && c.drain.netId == c.bulk.netId) = false) :
    env.nmosHizBulk c bulkPower = env.dual.pmosHizBulk c.dual bulkPower ↔ ¬env.SimDecides c bulkPower := by
  unfold nmosHizBulk pmosHizBulk SimDecides
  simp only [hnets, Bool.false_eq_true, dual_source, dual_drain]
  by_cases hmax : c.bulk.maxVoltage = unknownVoltage
  · rw [nmosHizError_eq hmapped.source hc.source hmax, nmosHizError_eq hmapped.drain hc.drain hmax,
      pmosHizError_dual_eq hc.source hmax, pmosHizError_dual_eq hc.drain hmax]
    cases env.hizUnrelated bulkPower c.source <;> cases env.hizUnrelated bulkPower c.drain <;>
      cases env.unrelatedSim .min bulkPower c.source.simPower <;> cases env.unrelatedSim .min bulkPower c.drain.simPower <;>
      simp [hmax]
  · rw [pmosHizError_dual hmapped.source hc.source hmax, pmosHizError_dual hmapped.drain hc.drain hmax]
    exact ⟨fun _ h => hmax h.1, fun _ => rfl⟩

/-! ## The checks -/

/-- The checks of an NMOS device get to a Hi-Z power of its bulk. -/
structure ReachesHizBulk (env : BulkEnv) (c : CFullConnection) (bulkPower : Nat) : Prop where
  nmos : c.type.isNmos = true
  nets : (c.source.netId == c.drain.netId && c.source.netId == c.bulk.netId) = false
  source : env.isRelatedByDefault .min c.bulk.minPower c.source.minPower = true
  drain : env.isRelatedByDefault .min c.bulk.minPower c.drain.minPower = true
  noBias : nmosNoBias c = false
  minPower : c.bulk.minPower = some bulkPower
  hiz : (env.nets.power bulkPower).type.hizBit = true

theorem relatedError_dual_iff (hmapped : c.Mapped env.nets) (hc : c.HasDual)
    (hnets : (c.source.netId == c.bulk.netId && c.drain.netId == c.bulk.netId) = false) :
    env.nmosRelatedError c = env.dual.pmosRelatedError c.dual ↔
      ¬∃ p, c.bulk.minPower = some p ∧ (env.nets.power p).type.hizBit = true ∧ env.SimDecides c p := by
  unfold nmosRelatedError pmosRelatedError relatedError
  simp only [dual_bulk, Terminal.dual_maxPower, dual_nets, PowerNets.dual_power, CPower.dual_type, PowerType.dual_hizBit]
  cases c.bulk.minPower with
  | none => simp [pmosBias_dual hc]
  | some p =>
    cases hhiz : (env.nets.power p).type.hizBit with
    | false => simp [Option.filter_some, hhiz, pmosBias_dual hc]
    | true => simpa [Option.filter_some, hhiz] using hizBulk_dual_iff hmapped hc hnets

theorem pmosSourceVsBulk_dual (hc : c.HasDual) : env.dual.pmosSourceVsBulk c.dual =
    decision c c.type.isNmos (env.isRelatedByDefault .min c.bulk.minPower c.source.minPower &&
      env.isRelatedByDefault .min c.bulk.minPower c.drain.minPower) (nmosNoBias c) (env.dual.pmosRelatedError c.dual) := by
  rw [← pmosNoBias_dual hc, ← ModelType.isPmos_dual]
  rfl

/-- The last test decides if the others come to it. -/
theorem decision_isSome_eq_iff {isMos related noBias error error' : Bool} :
    (decision c isMos related noBias error).isSome = (decision c isMos related noBias error').isSome ↔
      (isMos = true → (c.source.netId == c.drain.netId && c.source.netId == c.bulk.netId) = false →
        related = true → noBias = false →
        error = error') := by
  unfold decision
  cases c.source.netId == c.drain.netId && c.source.netId == c.bulk.netId <;> cases isMos <;> cases related <;> cases noBias <;>
    cases error <;> cases error' <;> simp

/-- The check of the bulk of an NMOS device counts an error exactly when that of the dual PMOS device does, unless a sim power
that is not related to a Hi-Z bulk decides. -/
theorem sourceVsBulk_dual_iff (env : BulkEnv) (c : CFullConnection) (hmapped : c.Mapped env.nets) (hc : c.HasDual) :
    (env.nmosSourceVsBulk c).isSome = (env.dual.pmosSourceVsBulk c.dual).isSome ↔
      ¬∃ bulkPower, env.ReachesHizBulk c bulkPower ∧ env.SimDecides c bulkPower := by
  rw [pmosSourceVsBulk_dual hc]
  refine decision_isSome_eq_iff.trans ?_
  have herror : (c.source.netId == c.drain.netId && c.source.netId == c.bulk.netId) = false → _ := fun hnets =>
    @relatedError_dual_iff env c hmapped hc (by
      rw [Bool.and_eq_false_iff, beq_eq_false_iff_ne, beq_eq_false_iff_ne] at hnets ⊢
      omega)
  constructor
  · rintro h ⟨p, hp, hsim⟩
    exact (herror hp.nets).1 (h hp.nmos hp.nets (by rw [hp.source, hp.drain]; rfl) hp.noBias) ⟨p, hp.minPower, hp.hiz, hsim⟩
  · intro h hnmos hnets hrelated hbias
    refine (herror hnets).2 ?_
    rintro ⟨p, hp, hhiz, hsim⟩
    obtain ⟨hsource, hdrain⟩ := Bool.and_eq_true_iff.1 hrelated
    exact h ⟨p, ⟨hnmos, hnets, hsource, hdrain, hbias, hp, hhiz⟩, hsim⟩

end

/-! ## A device -/

/-- A Hi-Z power of unknown voltage, a power between 0 V and 2 V that is related to it, and a power of 1 V that is not. -/
def openBulk : BulkEnv where
  nets :=
    { power := fun p =>
        if p = 0 then { type := { hizBit := true } }
        else if p = 1 then { minVoltage := 0, maxVoltage := 2000 }
        else { minVoltage := 1000, simVoltage := 1000, maxVoltage := 1000 }
      netVoltagePtr := fun _ => none
      next := fun _ net => net }
  isRelatedPower := fun _ q _ _ _ theIsHiZRelative => theIsHiZRelative || q != 2
  getEquivalentNet := id

/-- A terminal between 0 V and 2 V, with a sim power. -/
def terminalWithSim (net : Nat) (sim : Option Nat) : Terminal where
  netId := net
  minVoltage := 0
  simVoltage := voltageOfPower openBulk.nets (·.simVoltage) sim
  maxVoltage := 2000
  minPower := some 1
  simPower := sim
  maxPower := some 1

/-- A device with an open bulk. -/
def openBulkDevice (sim : Option Nat) : CFullConnection where
  source := terminalWithSim 0 sim
  drain := terminalWithSim 1 sim
  bulk := { netId := 2, minPower := some 0, maxPower := some 0 }
  type := .nmos

theorem openBulkDevice_mapped (sim : Option Nat) : (openBulkDevice sim).Mapped openBulk.nets :=
  ⟨⟨rfl, rfl, rfl⟩, ⟨rfl, rfl, rfl⟩, ⟨rfl, rfl, rfl⟩⟩

theorem openBulkDevice_hasDual : (openBulkDevice none).HasDual ∧ (openBulkDevice (some 2)).HasDual := by
  constructor <;> constructor <;> constructor <;> decide

/-- A device without sim powers and its dual. -/
theorem openBulkDevice_dual_isSome_eq :
    (openBulk.nmosSourceVsBulk (openBulkDevice none)).isSome =
      (openBulk.dual.pmosSourceVsBulk (openBulkDevice none).dual).isSome := by
  refine (sourceVsBulk_dual_iff openBulk (openBulkDevice none) (openBulkDevice_mapped none) openBulkDevice_hasDual.1).2 ?_
  rintro ⟨p, -, -, -, -, h | h⟩ <;> exact nomatch h

/-- A device with an error that its dual does not have. -/
theorem openBulkDevice_dual_none : (openBulkDevice (some 2)).Mapped openBulk.nets ∧ (openBulkDevice (some 2)).HasDual ∧
    openBulk.nmosSourceVsBulk (openBulkDevice (some 2)) = some "" ∧
    openBulk.dual.pmosSourceVsBulk (openBulkDevice (some 2)).dual = none :=
  ⟨openBulkDevice_mapped _, openBulkDevice_hasDual.2, rfl, rfl⟩

end BulkEnv
end Cvc
