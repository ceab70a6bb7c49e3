import Cvc.Connection

/-!
# Gate versus source checks

`FindNmosGateVsSourceErrors` and `FindPmosGateVsSourceErrors` of `CCvcDb_error.cc`, for one device of their loops: a gate that can
be on although it should be off. A check passes the device, puts its gate in the list of levels that are expected to be low, or
counts an error with a heading. `IncrementDeviceError` and what is printed of the device are not part of it.
-/

namespace Cvc

/-- What the gate checks read besides the device, with the rounds that `GetBasePower` is followed. -/
structure GateSourceEnv where
  nets : PowerNets
  rounds : Nat
  cvcGateErrorThreshold : Int := 0
  cvcAnalogGates : Bool := true
  cvcMinVthGates : Bool := false
  cvcVthGates : Bool := false
  cvcLogicDiodes : Bool := false

/-- The outcome of a check of a device. -/
inductive GateCheck where
  | pass
  | expectLow
  | error (heading : String)
  deriving DecidableEq, Repr

/-- `min(a, b)` of a `voltage_t` and an `int`, which is converted (`Cvc.hh`). -/
def minVoltageOf (a b : Int) : Int := if a < int16 b then a else int16 b

/-- `max(a, b)` of a `voltage_t` and an `int`, which is converted (`Cvc.hh`). -/
def maxVoltageOf (a b : Int) : Int := if a > int16 b then a else int16 b

/-- `myMaxVoltageDifference` after a difference that counts under a condition. -/
def raiseTo (counts : Bool) (difference myMaxVoltageDifference : Int) : Int :=
  if counts && decide (difference > myMaxVoltageDifference) then difference else myMaxVoltageDifference

namespace GateSourceEnv

variable (env : GateSourceEnv) (c : CFullConnection) (gatePower : Nat)

/-- The power of the gate is related to those of the source and of the drain. -/
def isRelatedToBoth (bit : CalculatedBit) (gatePower : Nat) (sourcePower drainPower : Option Nat) : Except Failure Bool := do
  if ← env.nets.isRelatedPower env.rounds gatePower sourcePower bit bit true true then
    env.nets.isRelatedPower env.rounds gatePower drainPower bit bit true true
  else pure false

/-- A capacitor that is a direct power capacitor, or is connected to a net that is neither input nor power. -/
def ignoreCapacitor : Bool :=
  env.nets.isPower (env.nets.netVoltagePtr c.gate.netId) && env.nets.isPower (env.nets.netVoltagePtr c.drain.netId) ||
    !env.nets.isInputOrPower (env.nets.netVoltagePtr c.source.masterMinNet) ||
    !env.nets.isInputOrPower (env.nets.netVoltagePtr c.gate.masterMinNet)

/-- `myMaxVoltageDifference`: the differences of the gate with the drain and the source, where they count. -/
def maxDifference (known : List Terminal → Bool) (difference : Terminal → Int) (start : Int) : Int :=
  raiseTo (known [c.gate, c.drain] && c.gate.netId != c.source.netId) (difference c.drain)
    (raiseTo (known [c.gate, c.source] && c.gate.netId != c.drain.netId) (difference c.source) start)

/-- The largest difference is too small for an error. -/
def tooSmall (vth difference : Int) : Bool :=
  difference ≤ env.cvcGateErrorThreshold || env.cvcMinVthGates && decide (difference < vth)

/-- The checks of a device whose powers are related. -/
def relatedCheck (vth difference : Int) (fullyOn vthFlag : Bool) (error : String → GateCheck) : GateCheck :=
  if env.tooSmall vth difference then .pass
  else if fullyOn then .pass
  else if vthFlag then
    if env.cvcVthGates then error "Gate-source = Vth" else .pass
  else error ""

/-- The check of a device whose gate has a power, and whose powers are related or not. -/
def decision (gatePower : Option Nat) (related : Nat → Except Failure Bool) (check unrelated : Nat → GateCheck) :
    Except Failure GateCheck :=
  match gatePower with
  | none => pure .pass
  | some p =>
    if (env.nets.power p).type.analogBit && !env.cvcAnalogGates then pure .pass
    else if env.nets.isSCRCPower p then pure .pass
    else do
      if ← related p then pure (check p) else pure (unrelated p)

/-! ## NMOS -/

/-- The difference of the gate and the source or drain of an NMOS device. -/
def nmosDifference (vth : Int) (gate other : Terminal) : Int :=
  int16 (gate.minVoltage - minVoltageOf other.minVoltage (other.minVoltage + vth))

/-- `myMaxVoltageDifference` of an NMOS device. -/
def nmosMaxDifference : Int := maxDifference c checkTerminalMinVoltages (nmosDifference c.vth c.gate) (min 0 c.vth)

/-- The gate of an NMOS device is always fully on, or the device has no max connections. -/
def nmosFullyOn : Bool :=
  if checkTerminalMaxVoltages [c.source] then
    if checkTerminalMaxVoltages [c.drain] then
      decide (c.gate.minVoltage ≥ max c.source.maxVoltage c.drain.maxVoltage - env.cvcGateErrorThreshold) ||
        c.source.netId == c.drain.netId && env.ignoreCapacitor c
    else decide (c.gate.minVoltage ≥ c.source.maxVoltage - env.cvcGateErrorThreshold)
  else if checkTerminalMaxVoltages [c.drain] then decide (c.gate.minVoltage ≥ c.drain.maxVoltage - env.cvcGateErrorThreshold)
  else true

/-- `myVthFlag` of an NMOS device. -/
def nmosVthFlag : Bool :=
  (env.nets.power gatePower).type.minCalculatedBit &&
    (c.gate.minVoltage - c.source.minVoltage == c.vth || c.gate.minVoltage - c.drain.minVoltage == c.vth)

/-- The checks of an NMOS device whose powers are related. -/
def nmosRelatedCheck : GateCheck :=
  env.relatedCheck c.vth (nmosMaxDifference c) (env.nmosFullyOn c) (env.nmosVthFlag c gatePower) .error

/-- `CCvcDb::FindNmosGateVsSourceErrors`, for one device. -/
def nmosGateVsSource : Except Failure GateCheck :=
  if !c.type.isNmos then pure .pass
  else env.decision c.gate.minPower (fun p => env.isRelatedToBoth .min p c.source.minPower c.drain.minPower)
    (env.nmosRelatedCheck c)
    fun _ => .error "Unrelated power error"

/-! ## PMOS -/

/-- The difference of the gate and the source or drain of a PMOS device. -/
def pmosDifference (vth : Int) (gate other : Terminal) : Int :=
  int16 (maxVoltageOf other.maxVoltage (other.maxVoltage + vth) - gate.maxVoltage)

/-- `myMaxVoltageDifference` of a PMOS device. -/
def pmosMaxDifference : Int := maxDifference c checkTerminalMaxVoltages (pmosDifference c.vth c.gate) (max 0 c.vth)

/-- The gate of a PMOS device is always fully on, or the device has no min connections. -/
def pmosFullyOn : Bool :=
  if checkTerminalMinVoltages [c.source] then
    if checkTerminalMinVoltages [c.drain] then
      decide (c.gate.maxVoltage ≤ min c.source.minVoltage c.drain.minVoltage + env.cvcGateErrorThreshold) ||
        c.source.netId == c.drain.netId && env.ignoreCapacitor c
    else decide (c.gate.maxVoltage ≤ c.source.minVoltage + env.cvcGateErrorThreshold)
  else if checkTerminalMinVoltages [c.drain] then decide (c.gate.maxVoltage ≤ c.drain.minVoltage + env.cvcGateErrorThreshold)
  else true

/-- `myVthFlag` of a PMOS device. -/
def pmosVthFlag : Bool :=
  (env.nets.power gatePower).type.maxCalculatedBit &&
    (c.gate.maxVoltage - c.source.maxVoltage == c.vth || c.gate.maxVoltage - c.drain.maxVoltage == c.vth)

/-- An error of a PMOS device, unless the gate is checked later because it is a logic diode. -/
def pmosError (heading : String) : GateCheck :=
  if (env.nets.power gatePower).type.maxCalculatedBit && env.cvcLogicDiodes && (env.nets.netVoltagePtr c.gate.netId).isNone then
    .expectLow
  else .error heading

/-- The checks of a PMOS device whose powers are related. -/
def pmosRelatedCheck : GateCheck :=
  env.relatedCheck (-c.vth) (pmosMaxDifference c) (env.pmosFullyOn c) (env.pmosVthFlag c gatePower) (env.pmosError c gatePower)

/-- `CCvcDb::FindPmosGateVsSourceErrors`, for one device. -/
def pmosGateVsSource : Except Failure GateCheck :=
  if !c.type.isPmos then pure .pass
  else env.decision c.gate.maxPower (fun p => env.isRelatedToBoth .max p c.source.maxPower c.drain.maxPower)
    (env.pmosRelatedCheck c)
    fun p => env.pmosError c p "Unrelated power error"

end GateSourceEnv
end Cvc
