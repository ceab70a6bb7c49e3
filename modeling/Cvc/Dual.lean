import Cvc.Connection

/-!
# The dual of a device

The checks of the program come in pairs: what is checked of the minimum of one voltage is checked of the maximum of its mirror
image. The dual of a device has every known voltage negated and every minimum exchanged with the corresponding maximum; NMOS and
PMOS change places. It is only defined for voltages whose negative is again a known voltage of 16 bits (`HasDual`): the negative
of `-32767` would be the mark for an unknown voltage.
-/

namespace Cvc

/-- The negative of a voltage, if it is known. -/
def negate (v : Int) : Int := if v = unknownVoltage then unknownVoltage else -v

/-- A voltage that is unknown, or whose negative is a known voltage. -/
def HasDual (v : Int) : Prop := v = unknownVoltage ∨ -maxVoltage ≤ v ∧ v ≤ maxVoltage
  deriving Decidable

def ModelType.dual : ModelType → ModelType
  | .nmos => .pmos
  | .pmos => .nmos
  | .lddn => .lddp
  | .lddp => .lddn
  | type => type

def CalculatedBit.dual : CalculatedBit → CalculatedBit
  | .min => .max
  | .sim => .sim
  | .max => .min

@[simps]
def PowerType.dual (type : PowerType) : PowerType :=
  { type with minCalculatedBit := type.maxCalculatedBit, maxCalculatedBit := type.minCalculatedBit }

@[simps]
def CPower.dual (power : CPower) : CPower :=
  { power with
    minVoltage := negate power.maxVoltage
    simVoltage := negate power.simVoltage
    maxVoltage := negate power.minVoltage
    defaultMinNet := power.defaultMaxNet
    defaultMaxNet := power.defaultMinNet
    type := power.type.dual }

@[simps]
def PowerNets.dual (nets : PowerNets) : PowerNets where
  power p := (nets.power p).dual
  netVoltagePtr := nets.netVoltagePtr
  next bit := nets.next bit.dual

@[simps]
def Terminal.dual (t : Terminal) : Terminal :=
  { t with
    minVoltage := negate t.maxVoltage
    simVoltage := negate t.simVoltage
    maxVoltage := negate t.minVoltage
    minLeakVoltage := negate t.maxLeakVoltage
    maxLeakVoltage := negate t.minLeakVoltage
    minPower := t.maxPower
    maxPower := t.minPower
    masterMinNet := t.masterMaxNet
    masterMaxNet := t.masterMinNet
    minResistance := t.maxResistance
    maxResistance := t.minResistance }

@[simps]
def CFullConnection.dual (c : CFullConnection) : CFullConnection where
  gate := c.gate.dual
  source := c.source.dual
  drain := c.drain.dual
  bulk := c.bulk.dual
  type := c.type.dual
  vth := -c.vth

/-- The voltages of a terminal have duals. -/
structure Terminal.HasDual (t : Terminal) : Prop where
  minVoltage : Cvc.HasDual t.minVoltage
  simVoltage : Cvc.HasDual t.simVoltage
  maxVoltage : Cvc.HasDual t.maxVoltage
  minLeakVoltage : Cvc.HasDual t.minLeakVoltage
  maxLeakVoltage : Cvc.HasDual t.maxLeakVoltage

/-- The voltages of a device have duals. -/
structure CFullConnection.HasDual (c : CFullConnection) : Prop where
  gate : c.gate.HasDual
  source : c.source.HasDual
  drain : c.drain.HasDual
  bulk : c.bulk.HasDual

/-! ## Voltages -/

theorem negate_unknown : negate unknownVoltage = unknownVoltage := if_pos rfl

theorem negate_of_ne {v : Int} (hv : v ≠ unknownVoltage) : negate v = -v := if_neg hv

theorem HasDual.negate_eq_unknown {v : Int} (h : HasDual v) : negate v = unknownVoltage ↔ v = unknownVoltage := by
  unfold negate HasDual maxVoltage unknownVoltage at *
  split <;> omega

theorem HasDual.negate_inj {v w : Int} (hv : HasDual v) (hw : HasDual w) : negate v = negate w ↔ v = w := by
  unfold negate HasDual maxVoltage unknownVoltage at *
  split <;> split <;> omega

theorem beq_negate {v w : Int} (hv : HasDual v) (hw : HasDual w) : (negate v == negate w) = (v == w) := by
  rw [Bool.eq_iff_iff, beq_iff_eq, beq_iff_eq, hv.negate_inj hw]

theorem HasDual.beq_unknown {v : Int} (hv : HasDual v) : (negate v == unknownVoltage) = (v == unknownVoltage) :=
  beq_negate hv (.inl rfl)

/-- Negation reverses the order of known voltages. -/
theorem negate_le_negate {v w : Int} (hv : v ≠ unknownVoltage) (hw : w ≠ unknownVoltage) : negate w ≤ negate v ↔ v ≤ w := by
  rw [negate_of_ne hv, negate_of_ne hw]
  omega

/-- A test whether voltages of terminals are known, and the one of their negatives. -/
theorem all_known_dual {terminals : List Terminal} {v w : Terminal → Int} (hw : ∀ t ∈ terminals, w t.dual = negate (v t))
    (h : ∀ t ∈ terminals, HasDual (v t)) :
    (terminals.map Terminal.dual).all (fun t => w t != unknownVoltage) = terminals.all fun t => v t != unknownVoltage := by
  rw [List.all_map, Bool.eq_iff_iff, List.all_eq_true, List.all_eq_true]
  refine forall_congr' fun t => imp_congr_right fun ht => ?_
  rw [Function.comp_apply, hw t ht, bne_iff_ne, bne_iff_ne]
  exact not_congr (h t ht).negate_eq_unknown

variable (terminals : List Terminal) (h : ∀ t ∈ terminals, t.HasDual)
include h

theorem checkTerminalMaxVoltages_dual :
    checkTerminalMaxVoltages (terminals.map Terminal.dual) = checkTerminalMinVoltages terminals :=
  all_known_dual (fun _ _ => rfl) fun t ht => (h t ht).minVoltage

theorem checkTerminalMinVoltages_dual :
    checkTerminalMinVoltages (terminals.map Terminal.dual) = checkTerminalMaxVoltages terminals :=
  all_known_dual (fun _ _ => rfl) fun t ht => (h t ht).maxVoltage

theorem checkTerminalSimVoltages_dual :
    checkTerminalSimVoltages (terminals.map Terminal.dual) = checkTerminalSimVoltages terminals :=
  all_known_dual (fun _ _ => rfl) fun t ht => (h t ht).simVoltage

omit h

theorem ModelType.isPmos_dual (type : ModelType) : type.dual.isPmos = type.isNmos := by
  cases type <;> rfl

/-! ## Powers -/

namespace CPower

theorem calculated_dual (power : CPower) (bit : CalculatedBit) : power.dual.calculated bit.dual = power.calculated bit := by
  cases bit <;> rfl

theorem defaultNet_dual (power : CPower) (bit : CalculatedBit) : power.dual.defaultNet bit.dual = power.defaultNet bit := by
  cases bit <;> rfl

end CPower

namespace PowerNets

section
variable (nets : PowerNets)
include nets

theorem next_dual (bit : CalculatedBit) : nets.dual.next bit.dual = nets.next bit := by
  cases bit <;> rfl

theorem lastNet_dual (bit : CalculatedBit) (rounds net : Nat) :
    nets.dual.lastNet bit.dual rounds net = nets.lastNet bit rounds net := by
  induction rounds generalizing net with
  | zero => simp only [lastNet, next_dual]
  | succ rounds ih =>
    rw [lastNet.eq_def, lastNet.eq_def nets]
    simp only [next_dual, ih]

theorem basePower_dual (bit : CalculatedBit) (limit rounds : Nat) (power : Option Nat) (net : Nat) :
    nets.dual.basePower bit.dual limit rounds power net = nets.basePower bit limit rounds power net := by
  induction rounds generalizing power net
  all_goals
    cases power with
    | none => rfl
    | some p =>
      rw [basePower.eq_def, basePower.eq_def nets]
      simp only [next_dual, show nets.dual.power p = (nets.power p).dual from rfl, CPower.calculated_dual, CPower.defaultNet_dual,
        lastNet_dual, *]
      try rfl

/-- Whether two powers are related does not depend on their voltages. -/
theorem isRelatedPower_dual (limit power : Nat) (theTestPower : Option Nat)
    (theNet theTestNet : CalculatedBit) (theDefault theIsHiZRelative : Bool) :
    nets.dual.isRelatedPower limit power theTestPower theNet.dual theTestNet.dual theDefault theIsHiZRelative =
      nets.isRelatedPower limit power theTestPower theNet theTestNet theDefault theIsHiZRelative := by
  cases theTestPower with
  | none => rfl
  | some p =>
    have hbase : nets.dual.isRelatedBase theDefault theIsHiZRelative = nets.isRelatedBase theDefault theIsHiZRelative := by
      funext p q
      cases p <;> cases q <;> rfl
    simp only [isRelatedPower, getBasePower, basePower_dual, hbase]
    rfl

theorem isHiz_dual (power : Option Nat) : nets.dual.isHiz power = nets.isHiz power := by
  cases power <;> rfl

end
end PowerNets
end Cvc
