import Mathlib.Tactic.MkIffOfInductiveProp
import Cvc.LeakPath
import Cvc.Dual

/-!
# Leak paths under exchange of the terminals, parallel devices under duality

`HasLeakPath` returns at the first test of a Hi-Z power that decides, and it tests the min power of the source before that of the
drain and the max power of the source before that of the drain: exchanging the terminals changes the answer where the Hi-Z power
of one terminal leaks to the other one, whose own power is inactive or related. After these tests, only the threshold for sim
voltages looks at one terminal alone, whether its voltage is known.

`HasParallelShort` compares the gate of a parallel device with a voltage that may be unknown. The mark of an unknown voltage is
larger than every voltage, so that an NMOS device is off there and a PMOS device is on.
-/

namespace Cvc
/-- The side that a power is tested against: the max side for a min power, the min side for a max power. -/
def CalculatedBit.far : CalculatedBit → CalculatedBit
  | .min => .max
  | .sim => .sim
  | .max => .min

/-- The power of a terminal on one side. -/
def Terminal.power (t : Terminal) : CalculatedBit → Option Nat
  | .min => t.minPower
  | .sim => t.simPower
  | .max => t.maxPower

/-- The voltage of a terminal on one side. -/
def Terminal.voltage (t : Terminal) : CalculatedBit → Int
  | .min => t.minVoltage
  | .sim => t.simVoltage
  | .max => t.maxVoltage

namespace LeakEnv

/-- The order of two tests matters if they disagree, or if neither decides and what comes after them differs. -/
theorem getD_comm_iff (a b : Option Bool) (x y : Bool) : b.getD (a.getD y) = a.getD (b.getD x) ↔
    ¬(a = some true ∧ b = some false ∨ b = some true ∧ a = some false) ∧ (a = none → b = none → y = x) := by
  rcases a with _ | _ | _ <;> rcases b with _ | _ | _ <;> simp [eq_comm]

variable (env : LeakEnv) (source drain : Terminal)

/-- The power has a min or max activity. -/
def IsActive (bit : CalculatedBit) (p : Nat) : Prop :=
  (if bit = .min then (env.nets.power p).active.minActive else (env.nets.power p).active.maxActive) = true

/-- The net of a terminal ends its links on one side and has no voltage there. -/
def EndsUnknown (bit : CalculatedBit) (t : Terminal) : Prop := t.netId = env.nets.next bit t.netId ∧
    t.voltage bit = unknownVoltage

/-- The power of a terminal is active and Hi-Z, and the far power of the other one, which has a link or a voltage, is not related.
-/
def LeaksTo (bit : CalculatedBit) (t other : Terminal) : Prop :=
  ∃ p q, t.power bit = some p ∧ other.power bit.far = some q ∧ env.IsActive bit p ∧ (env.nets.power p).type.hizBit = true ∧
    ¬env.EndsUnknown bit.far other ∧ env.isRelatedPower p q bit bit.far = false

/-- The power of a terminal is not active, or it is Hi-Z and the far power of the other one has no link and no voltage or is
related. -/
def ClosedTo (bit : CalculatedBit) (t other : Terminal) : Prop :=
  ∃ p, t.power bit = some p ∧ (¬env.IsActive bit p ∨ (env.nets.power p).type.hizBit = true ∧
    ∃ q, other.power bit.far = some q ∧ (env.EndsUnknown bit.far other ∨ env.isRelatedPower p q bit bit.far = true))

/-- The power of a terminal, if it has one, is active, and not Hi-Z unless the other terminal has no far power. -/
def IsPlainAt (bit : CalculatedBit) (t other : Terminal) : Prop :=
  ∀ p, t.power bit = some p → env.IsActive bit p ∧ ((env.nets.power p).type.hizBit = true → other.power bit.far = none)

/-- One terminal leaks to the other one, which is closed to it. -/
def Conflict (bit : CalculatedBit) : Prop :=
  env.LeaksTo bit source drain ∧ env.ClosedTo bit drain source ∨ env.LeaksTo bit drain source ∧ env.ClosedTo bit source drain

/-- A min or max voltage of the terminal comes from elsewhere than the other one. -/
def HasOtherPath (t other : Terminal) : Prop :=
  env.fromNet .min t ≠ other.netId ∧ t.minVoltage ≠ unknownVoltage ∨ env.fromNet .max t ≠ other.netId ∧
    t.maxVoltage ≠ unknownVoltage

/-- The min voltage of a terminal is known and under the known max voltage of the other one. -/
def IsUnder (t other : Terminal) : Prop :=
  env.minLeakVoltage t ≠ unknownVoltage ∧ env.maxLeakVoltage other ≠ unknownVoltage ∧
    env.minLeakVoltage t < env.maxLeakVoltage other

/-- One sim voltage is known, and it is within the threshold of the mark of an unknown one. Neither sim voltage was calculated
from the other net, both terminals have another path, and the voltages are apart. -/
@[mk_iff]
structure ThresholdDecides : Prop where
  one_known : ¬(source.simVoltage = unknownVoltage ↔ drain.simVoltage = unknownVoltage)
  near : ((source.simVoltage - drain.simVoltage).natAbs : Int) < env.cvcFloatingErrorThreshold
  source_sim : ∀ p ∈ source.simPower, (env.nets.power p).defaultSimNet ≠ drain.netId
  drain_sim : ∀ p ∈ drain.simPower, (env.nets.power p).defaultSimNet ≠ source.netId
  source_path : env.HasOtherPath source drain
  drain_path : env.HasOtherPath drain source
  apart : env.IsUnder source drain ∨ env.IsUnder drain source

/-- The test of a Hi-Z power by the powers and voltages it reads. -/
theorem hizPath_eq_iff (bit : CalculatedBit) (t other : Terminal) :
    let test := env.hizPath bit bit.far (fun a => if bit = .min then a.minActive else a.maxActive) (t.power bit)
      (other.power bit.far)
      other.netId (other.voltage bit.far)
    (test = some true ↔ env.LeaksTo bit t other) ∧ (test = some false ↔ env.ClosedTo bit t other) ∧
      (test = none ↔ env.IsPlainAt bit t other) := by
  simp only [hizPath, LeaksTo, ClosedTo, IsPlainAt, IsActive, EndsUnknown]
  cases t.power bit with
  | none => simp
  | some p => cases other.power bit.far <;> grind

theorem isNear_comm : env.isNear drain source = env.isNear source drain := by
  unfold isNear
  rw [← Int.natAbs_neg, Int.neg_sub]

/-- After the tests of the Hi-Z powers, only the threshold for sim voltages looks at one terminal alone. -/
theorem hasVoltagePath_comm_iff :
    env.hasVoltagePath drain source = env.hasVoltagePath source drain ↔ ¬env.ThresholdDecides source drain := by
  have hown : ∀ t other, env.isOwnSim t other = false ↔ ∀ p ∈ t.simPower, (env.nets.power p).defaultSimNet ≠ other.netId := by
    intro t other
    unfold isOwnSim
    cases t.simPower <;> simp
  have honly : ∀ t other, env.onlyFrom t other = false ↔ env.HasOtherPath t other := by
    simp [onlyFrom, HasOtherPath, imp_iff_not_or]
  have hbelow : ∀ t other, env.isBelow t other = true ↔ env.IsUnder t other := by
    simp [isBelow, IsUnder, and_assoc]
  have hnear : env.isNear source drain = true ↔
      ((source.simVoltage - drain.simVoltage).natAbs : Int) < env.cvcFloatingErrorThreshold := decide_eq_true_iff
  rw [thresholdDecides_iff, ← hown, ← hown, ← honly, ← honly, ← hbelow, ← hbelow, ← hnear]
  unfold hasVoltagePath
  rw [isNear_comm]
  cases env.isOwnSim source drain <;> cases env.isOwnSim drain source <;> cases env.isNear source drain <;>
    cases env.onlyFrom source drain <;> cases env.onlyFrom drain source <;> cases env.isBelow source drain <;>
    cases env.isBelow drain source <;> by_cases hs : source.simVoltage = unknownVoltage <;>
    by_cases hd : drain.simVoltage = unknownVoltage <;> simp [hs, hd]

/-- `HasLeakPath` gives the same answer with source and drain exchanged exactly if no terminal with a Hi-Z min power leaks to one
whose min power is closed to it, nor, where the min powers are plain, one with a Hi-Z max power to one whose max power is closed,
and, where the max powers are plain as well, the threshold does not decide by the mark of an unknown sim voltage. -/
theorem hasLeakPath_exchange_iff : env.hasLeakPath drain source = env.hasLeakPath source drain ↔
    ¬env.Conflict source drain .min ∧ (env.IsPlainAt .min source drain → env.IsPlainAt .min drain source →
      ¬env.Conflict source drain .max ∧ (env.IsPlainAt .max source drain → env.IsPlainAt .max drain source →
        ¬env.ThresholdDecides source drain)) := by
  have hmin := env.hizPath_eq_iff .min
  have hmax := env.hizPath_eq_iff .max
  unfold hasLeakPath Conflict
  rw [getD_comm_iff, getD_comm_iff, hasVoltagePath_comm_iff, ← (hmin source drain).1, ← (hmin source drain).2.1,
    ← (hmin source drain).2.2, ← (hmin drain source).1, ← (hmin drain source).2.1, ← (hmin drain source).2.2,
    ← (hmax source drain).1, ← (hmax source drain).2.1, ← (hmax source drain).2.2, ← (hmax drain source).1,
    ← (hmax drain source).2.1, ← (hmax drain source).2.2]
  rfl

/-- No two powers are related. The min power of the source is Hi-Z and active, that of the drain is not active. -/
theorem hasLeakPath_not_symmetric :
    let env : LeakEnv := { nets :=
      ⟨fun p => { type := { hizBit := p == 0 }, active := { minActive := p == 0, maxActive := true } },
      fun _ => none, fun _ n => n⟩, finalNetId := fun _ n => n, isRelatedPower := fun _ _ _ _ => false }
    let source : Terminal := { netId := 0, minPower := some 0, minVoltage := 0 }
    let drain : Terminal := { netId := 1, minPower := some 1, minVoltage := 0, maxPower := some 2, maxVoltage := 3300 }
    (∀ p q v w, env.isRelatedPower p q v w = env.isRelatedPower q p w v) ∧ env.hasLeakPath source drain = true ∧
      env.hasLeakPath drain source = false := by
  refine ⟨fun _ _ _ _ => rfl, by decide, by decide⟩

end LeakEnv

/-- The voltage that the gate of a parallel device is compared with. -/
def Terminal.comparedVoltage (t : Terminal) (isNmos : Bool) : Int := if isNmos then t.minVoltage else t.maxVoltage

namespace CFullConnection

variable {c : CFullConnection} {t : Terminal} {isNmos : Bool} (hgate : Cvc.HasDual c.gate.simVoltage)

theorem isOnAt_iff : c.isOnAt isNmos t = true ↔ c.gate.simVoltage ≠ unknownVoltage ∧
    if isNmos then t.comparedVoltage isNmos + c.vth < c.gate.simVoltage
    else c.gate.simVoltage < t.comparedVoltage isNmos + c.vth := by
  cases isNmos <;> simp [isOnAt, Terminal.comparedVoltage]

include hgate

theorem isOnAt_dual_iff : c.dual.isOnAt (!isNmos) t.dual = true ↔ c.gate.simVoltage ≠ unknownVoltage ∧
    if isNmos then -c.gate.simVoltage < negate (t.comparedVoltage isNmos) - c.vth
    else negate (t.comparedVoltage isNmos) - c.vth < -c.gate.simVoltage := by
  rw [isOnAt_iff, show c.dual.gate.simVoltage = negate c.gate.simVoltage from rfl, Ne, hgate.negate_eq_unknown]
  refine and_congr_right fun hknown => ?_
  rw [negate_of_ne hknown]
  cases isNmos <;> rfl

/-- A device is on against a known voltage exactly if its dual is. -/
theorem isOnAt_dual (hknown : t.comparedVoltage isNmos ≠ unknownVoltage) :
    c.dual.isOnAt (!isNmos) t.dual = true ↔ c.isOnAt isNmos t = true := by
  rw [isOnAt_dual_iff hgate, isOnAt_iff, negate_of_ne hknown]
  cases isNmos <;> simp only [Bool.false_eq_true, if_true, if_false] <;> omega

/-- A device or its dual is on against an unknown voltage. -/
theorem isOnAt_unknown (hunknown : t.comparedVoltage isNmos = unknownVoltage) :
    c.isOnAt isNmos t = true ∨ c.dual.isOnAt (!isNmos) t.dual = true ↔ c.gate.simVoltage ≠ unknownVoltage ∧
      if isNmos then c.vth - unknownVoltage < c.gate.simVoltage else c.gate.simVoltage < c.vth + unknownVoltage := by
  rw [isOnAt_dual_iff hgate, isOnAt_iff, hunknown, negate_unknown, ← and_or_left]
  cases isNmos <;> simp only [Bool.false_eq_true, if_true, if_false] <;> unfold unknownVoltage <;> omega

end CFullConnection

namespace ParallelEnv

variable (env : ParallelEnv) (deviceId : Nat) (c : CFullConnection)

/-- Another device of the same kind between the same nets, and its terminal at the net that its gate is compared with. -/
def Parallel (d : Nat) (t : Terminal) : Prop :=
  env.isCandidate deviceId c.type.isNmos d = true ∧
    (d ∈ env.sourceDevices (env.ends c).1 ∧ env.drainNet d = (env.ends c).2 ∧ t = (env.mapDeviceNets d).drain ∨
      d ∈ env.drainDevices (env.ends c).1 ∧ env.sourceNet d = (env.ends c).2 ∧ t = (env.mapDeviceNets d).source)

/-- The two loops look for a parallel device with a test of it and the terminal. -/
theorem any_parallel_iff (test : Nat → Terminal → Bool) :
    (((env.sourceDevices (env.ends c).1).any fun d => env.isCandidate deviceId c.type.isNmos d &&
      env.drainNet d == (env.ends c).2 &&
        test d (env.mapDeviceNets d).drain) ||
      (env.drainDevices (env.ends c).1).any fun d =>
        env.isCandidate deviceId c.type.isNmos d && env.sourceNet d == (env.ends c).2 &&
        test d (env.mapDeviceNets d).source) = true ↔ ∃ d t, env.Parallel deviceId c d t ∧ test d t = true := by
  simp only [Bool.or_eq_true, List.any_eq_true, Bool.and_eq_true, beq_iff_eq]
  constructor
  · rintro (⟨d, hd, ⟨hc, hnet⟩, hon⟩ | ⟨d, hd, ⟨hc, hnet⟩, hon⟩)
    · exact ⟨d, _, ⟨hc, .inl ⟨hd, hnet, rfl⟩⟩, hon⟩
    · exact ⟨d, _, ⟨hc, .inr ⟨hd, hnet, rfl⟩⟩, hon⟩
  · rintro ⟨d, t, ⟨hc, ⟨hd, hnet, rfl⟩ | ⟨hd, hnet, rfl⟩⟩, hon⟩
    · exact .inl ⟨d, hd, ⟨hc, hnet⟩, hon⟩
    · exact .inr ⟨d, hd, ⟨hc, hnet⟩, hon⟩

theorem hasParallelShort_iff : env.hasParallelShort deviceId c = true ↔
    ∃ d t, env.Parallel deviceId c d t ∧ (env.mapDeviceNets d).isOnAt c.type.isNmos t = true :=
  env.any_parallel_iff deviceId c fun d t => (env.mapDeviceNets d).isOnAt c.type.isNmos t

/-- The circuit with the duals of the devices. -/
def dual : ParallelEnv :=
  { env with deviceType := fun d => (env.deviceType d).dual, mapDeviceNets := fun d => (env.mapDeviceNets d).dual }

theorem hasParallelShort_dual_iff (hmos : c.type.isNmos = !c.type.isPmos) : env.dual.hasParallelShort deviceId c.dual = true ↔
    ∃ d t, env.Parallel deviceId c d t ∧ (env.mapDeviceNets d).dual.isOnAt (!c.type.isNmos) t.dual = true := by
  have hkind : c.dual.type.isNmos = !c.type.isNmos := by
    show c.type.dual.isNmos = _
    rw [hmos, Bool.not_not]
    cases c.type <;> rfl
  have hcandidate : ∀ d, env.dual.isCandidate deviceId (!c.type.isNmos) d = env.isCandidate deviceId c.type.isNmos d := by
    intro d
    show (_ && if (!c.type.isNmos) = true then (env.deviceType d).dual.isNmos else (env.deviceType d).dual.isPmos) = _
    unfold isCandidate
    cases c.type.isNmos <;> cases env.deviceType d <;> rfl
  rw [← env.any_parallel_iff deviceId c fun d t => (env.mapDeviceNets d).dual.isOnAt (!c.type.isNmos) t.dual]
  unfold hasParallelShort
  simp only [hkind, hcandidate]
  rfl

/-- A parallel device that is on against a known voltage. -/
def ConductsAt (d : Nat) (t : Terminal) : Prop :=
  env.Parallel deviceId c d t ∧ (env.mapDeviceNets d).gate.simVoltage ≠ unknownVoltage ∧
    t.comparedVoltage c.type.isNmos ≠ unknownVoltage ∧ (env.mapDeviceNets d).isOnAt c.type.isNmos t = true

/-- A parallel short is only found with a parallel device that conducts, it is found in the dual circuit as well, and in every
order of the lists, exactly if some parallel device conducts or none with a known gate has its gate within reach of the unknown
voltage it is compared with. -/
theorem hasParallelShort_sound_iff (hmos : c.type.isNmos = !c.type.isPmos)
    (hdual : ∀ d, HasDual (env.mapDeviceNets d).gate.simVoltage) :
    ((env.hasParallelShort deviceId c = true → ∃ d t, env.ConductsAt deviceId c d t) ∧
      env.dual.hasParallelShort deviceId c.dual = env.hasParallelShort deviceId c ∧
      ∀ sources drains, (∀ n, (sources n).Perm (env.sourceDevices n)) → (∀ n, (drains n).Perm (env.drainDevices n)) →
        hasParallelShort { env with sourceDevices := sources, drainDevices := drains } deviceId c =
          env.hasParallelShort deviceId c) ↔
    (∃ d t, env.ConductsAt deviceId c d t) ∨ ∀ d t, env.Parallel deviceId c d t →
      t.comparedVoltage c.type.isNmos = unknownVoltage → (env.mapDeviceNets d).gate.simVoltage ≠ unknownVoltage →
        ¬if c.type.isNmos then (env.mapDeviceNets d).vth - unknownVoltage < (env.mapDeviceNets d).gate.simVoltage
          else (env.mapDeviceNets d).gate.simVoltage < (env.mapDeviceNets d).vth + unknownVoltage := by
  have hon : ∀ {d t}, (env.mapDeviceNets d).isOnAt c.type.isNmos t = true →
    (env.mapDeviceNets d).gate.simVoltage ≠ unknownVoltage := by
    intro d t h
    exact (CFullConnection.isOnAt_iff.1 h).1
  have horder : ∀ sources drains, (∀ n, (sources n).Perm (env.sourceDevices n)) → (∀ n, (drains n).Perm (env.drainDevices n)) →
      hasParallelShort { env with sourceDevices := sources, drainDevices := drains } deviceId c =
        env.hasParallelShort deviceId c := by
    intro sources drains hs hd
    rw [Bool.eq_iff_iff, hasParallelShort_iff, hasParallelShort_iff]
    simp only [Parallel, (hs _).mem_iff, (hd _).mem_iff]
    rfl
  rw [Bool.eq_iff_iff (b := env.hasParallelShort deviceId c), hasParallelShort_dual_iff env deviceId c hmos, hasParallelShort_iff]
  constructor
  · rintro ⟨hsound, hsame, -⟩
    by_cases hconducts : ∃ d t, env.ConductsAt deviceId c d t
    · exact .inl hconducts
    · refine .inr fun d t hpar hunknown hgate hreach => hconducts ?_
      rcases (CFullConnection.isOnAt_unknown (hdual d) hunknown).2 ⟨hgate, hreach⟩ with h | h
      · exact hsound ⟨d, t, hpar, h⟩
      · exact hsound (hsame.1 ⟨d, t, hpar, h⟩)
  · intro h
    have hshort : ∀ {d t}, env.Parallel deviceId c d t → (env.mapDeviceNets d).isOnAt c.type.isNmos t = true ∨
        (env.mapDeviceNets d).dual.isOnAt (!c.type.isNmos) t.dual = true → ∃ d t, env.ConductsAt deviceId c d t := by
      intro d t hpar hany
      by_cases hunknown : t.comparedVoltage c.type.isNmos = unknownVoltage
      · obtain ⟨hgate, hreach⟩ := (CFullConnection.isOnAt_unknown (hdual d) hunknown).1 hany
        exact h.elim id fun hnone => absurd hreach (hnone d t hpar hunknown hgate)
      · rw [CFullConnection.isOnAt_dual (hdual d) hunknown, or_self] at hany
        exact ⟨d, t, hpar, hon hany, hunknown, hany⟩
    refine ⟨fun ⟨d, t, hpar, hany⟩ => hshort hpar (.inl hany), ⟨fun ⟨d, t, hpar, hany⟩ => ?_, fun ⟨d, t, hpar, hany⟩ => ?_⟩,
      horder⟩
    · obtain ⟨d, t, hpar, -, -, hany⟩ := hshort hpar (.inr hany)
      exact ⟨d, t, hpar, hany⟩
    · obtain ⟨d, t, hpar, -, hknown, hany⟩ := hshort hpar (.inl hany)
      exact ⟨d, t, hpar, (CFullConnection.isOnAt_dual (hdual d) hknown).2 hany⟩

/-- Two devices of one type between nets 0 and 1, each with the source at net 0 and the gate at 0 V. -/
def twoDevices (type : ModelType) (drain : Terminal) : ParallelEnv where
  connectionCount _ := {}
  sourceDevices n := if n = 0 then [0, 1] else []
  drainDevices n := if n = 1 then [0, 1] else []
  deviceType _ := type
  sourceNet _ := 0
  drainNet _ := 1
  mapDeviceNets _ := { gate := { simVoltage := 0 }, source := { netId := 0 }, drain := { drain with netId := 1 }, type := type }

/-- A PMOS device with an unknown max voltage is taken for a short, its dual is not. -/
theorem twoDevices_unknown_short : (twoDevices .pmos {}).hasParallelShort 0 ((twoDevices .pmos {}).mapDeviceNets 0) = true ∧
    (twoDevices .pmos {}).dual.hasParallelShort 0 ((twoDevices .pmos {}).mapDeviceNets 0).dual = false := by
  decide

/-- With a known voltage there is a short in both. -/
theorem twoDevices_known_short : let env := twoDevices .pmos { maxVoltage := 1200 }
    env.dual.hasParallelShort 0 (env.mapDeviceNets 0).dual = env.hasParallelShort 0 (env.mapDeviceNets 0) := by
  intro env
  refine ((hasParallelShort_sound_iff env 0 (env.mapDeviceNets 0) rfl fun _ => show HasDual 0 by decide).2
    (.inl ⟨1, (env.mapDeviceNets 1).drain, ⟨?_, ?_⟩, ?_, ?_, ?_⟩)).2.1
  · decide
  · exact .inl ⟨by decide, rfl, rfl⟩
  all_goals decide

end ParallelEnv
end Cvc
