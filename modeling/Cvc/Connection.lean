import Cvc.Power

/-!
# The terminals of a device

`CFullConnection`: for the gate, the source, the drain and the bulk of a device, the net, the voltages and the powers that
`MapDeviceNets` finds. `SetMinMaxLeakVoltagesAndFlags` decides which of the voltages of a terminal can be used; it does the same
for each of the four terminals, so the terminals are of one type. The leak voltages, which it looks up in the data base first, are
part of the terminal here.
-/

namespace Cvc

/-- The part of a `CFullConnection` about one terminal; of its master nets, the final net and the final resistance. -/
structure Terminal where
  netId : Nat := unknownNet
  minVoltage : Int := unknownVoltage
  simVoltage : Int := unknownVoltage
  maxVoltage : Int := unknownVoltage
  minLeakVoltage : Int := unknownVoltage
  maxLeakVoltage : Int := unknownVoltage
  minPower : Option Nat := none
  simPower : Option Nat := none
  maxPower : Option Nat := none
  masterMinNet : Nat := unknownNet
  masterMaxNet : Nat := unknownNet
  minResistance : Nat := 0
  simResistance : Nat := 0
  maxResistance : Nat := 0
  deriving DecidableEq, Repr

/-- `CFullConnection`, with the type and the threshold of the model of the device. -/
structure CFullConnection where
  gate : Terminal := {}
  source : Terminal := {}
  drain : Terminal := {}
  bulk : Terminal := {}
  type : ModelType
  vth : Int := 0
  deriving DecidableEq, Repr

/-- `IsNmos_`. -/
def ModelType.isNmos (type : ModelType) : Bool := type == .nmos || type == .lddn

/-- `IsPmos_`. -/
def ModelType.isPmos (type : ModelType) : Bool := type == .pmos || type == .lddp

/-- A voltage and the flag that it is valid. A valid voltage is known. -/
structure Reading where
  valid : Bool
  voltage : Int
  known : valid = true → voltage ≠ unknownVoltage

/-- The readings of a terminal. -/
structure Readings where
  min : Reading
  max : Reading
  minLeak : Reading
  maxLeak : Reading

namespace Terminal

variable (nets : PowerNets) (t : Terminal)

/-- `validMin` before it is compared with the other voltages. -/
def hasMin : Bool := !(t.minVoltage == unknownVoltage || nets.isHiz t.minPower)

/-- `validMax` before it is compared with the other voltages. -/
def hasMax : Bool := !(t.maxVoltage == unknownVoltage || nets.isHiz t.maxPower)

/-- `validMinLeak` before the leak voltages are compared. -/
def hasMinLeak : Bool := t.minLeakVoltage != unknownVoltage

/-- `validMaxLeak` before the leak voltages are compared. -/
def hasMaxLeak : Bool := t.maxLeakVoltage != unknownVoltage

/-- A flag that holds only together with an order if another one holds as well. -/
def validIf (valid other : Bool) (ordered : Prop) [Decidable ordered] : Bool := if valid && other then decide ordered else valid

def validMinLeak : Bool := validIf t.hasMinLeak t.hasMaxLeak (t.minLeakVoltage ≤ t.maxLeakVoltage)

def validMaxLeak : Bool := validIf t.hasMaxLeak t.hasMinLeak (t.minLeakVoltage ≤ t.maxLeakVoltage)

def validMin : Bool :=
  validIf (validIf (t.hasMin nets) (t.hasMax nets) (t.minVoltage ≤ t.maxVoltage)) t.validMinLeak
    (t.minVoltage ≥ t.minLeakVoltage)

def validMax : Bool :=
  validIf (validIf (t.hasMax nets) (t.hasMin nets) (t.minVoltage ≤ t.maxVoltage)) t.validMaxLeak
    (t.maxVoltage ≤ t.maxLeakVoltage)

theorem of_validIf {valid other : Bool} {ordered : Prop} [Decidable ordered] (h : validIf valid other ordered = true) :
    valid = true := by
  unfold validIf at h
  cases valid with
  | true => rfl
  | false => simp at h

theorem minVoltage_ne_of_validMin {nets : PowerNets} {t : Terminal} (h : t.validMin nets = true) :
    t.minVoltage ≠ unknownVoltage := by
  have := of_validIf (of_validIf h)
  simp only [hasMin, Bool.not_eq_true', Bool.or_eq_false_iff, beq_eq_false_iff_ne] at this
  exact this.1

theorem maxVoltage_ne_of_validMax {nets : PowerNets} {t : Terminal} (h : t.validMax nets = true) :
    t.maxVoltage ≠ unknownVoltage := by
  have := of_validIf (of_validIf h)
  simp only [hasMax, Bool.not_eq_true', Bool.or_eq_false_iff, beq_eq_false_iff_ne] at this
  exact this.1

/-- `CFullConnection::SetMinMaxLeakVoltagesAndFlags`, for one terminal. -/
def setMinMaxLeakVoltagesAndFlags : Readings where
  min := ⟨t.validMin nets, t.minVoltage, minVoltage_ne_of_validMin⟩
  max := ⟨t.validMax nets, t.maxVoltage, maxVoltage_ne_of_validMax⟩
  minLeak := ⟨t.validMinLeak, t.minLeakVoltage, fun h => bne_iff_ne.1 (of_validIf h)⟩
  maxLeak := ⟨t.validMaxLeak, t.maxLeakVoltage, fun h => bne_iff_ne.1 (of_validIf h)⟩

end Terminal

/-- `CFullConnection::CheckTerminalMinVoltages`, for the terminals of the mask. -/
def checkTerminalMinVoltages (terminals : List Terminal) : Bool := terminals.all (·.minVoltage != unknownVoltage)

/-- `CFullConnection::CheckTerminalSimVoltages`, for the terminals of the mask. -/
def checkTerminalSimVoltages (terminals : List Terminal) : Bool := terminals.all (·.simVoltage != unknownVoltage)

/-- `CFullConnection::CheckTerminalMaxVoltages`, for the terminals of the mask. -/
def checkTerminalMaxVoltages (terminals : List Terminal) : Bool := terminals.all (·.maxVoltage != unknownVoltage)

/-- `CFullConnection::IsPumpCapacitor`. -/
def CFullConnection.isPumpCapacitor (c : CFullConnection) : Bool :=
  if c.type != .capacitor then false
  else if c.source.minPower == c.source.maxPower && c.source.minVoltage != c.source.maxVoltage then true
  else if c.drain.minPower == c.drain.maxPower && c.drain.minVoltage != c.drain.maxVoltage then true
  else false

end Cvc
