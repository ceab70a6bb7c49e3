import Cvc.NetState

/-!
# The input of an inverter

`FindInverterInput` of `CCvcDb_utility.cc`: the gate net that the transistors between a net and its ground and power have in
common. A transistor that is always on may be in series with the one that has the input. What belongs to NMOS or to PMOS
transistors is given by a `Bool` that says which. The messages to the log are left out, and so are the caches that the reads of
the virtual nets leave.
-/

namespace Cvc
namespace FlatCircuit

variable (c : FlatCircuit) (s : NetState)

/-- `CCvcDb::IsOnGate`, of a transistor. -/
def isOnGate (theDevice : Nat) (thePower : CPower) : Bool :=
  match s.netVoltagePtr (c.gateNet theDevice) with
  | none => false
  | some p =>
    (s.power p).type.powerBit &&
      if (c.deviceType theDevice).isNmos then decide ((s.power p).minVoltage > thePower.minVoltage)
      else decide ((s.power p).maxVoltage < thePower.maxVoltage)

/-- `CCvcDb::OppositeNet`. -/
def oppositeNet (theDevice theNet : Nat) : Except Failure Nat :=
  if c.sourceNet theDevice = theNet then .ok (c.drainNet theDevice)
  else if c.drainNet theDevice = theNet then .ok (c.sourceNet theDevice)
  else .error (.assertionFailed "(sourceNet_v[theDevice] == theNet) || (drainNet_v[theDevice] == theNet)")

/-- Two types that may be in series: both of NMOS or both of PMOS transistors. -/
def isSameMos (type other : ModelType) : Bool := type.isNmos && other.isNmos || type.isPmos && other.isPmos

/-- `CCvcDb::GetNextInSeries`: the only device of the loops, unless it is of another type. -/
def getNextInSeries (theDevice theNet : Nat) : Nat :=
  -- a device is skipped if its source and drain are different nets
  match (c.sources theNet ++ c.drains theNet).filter fun d => !(c.sourceNet d != c.drainNet d) && d != theDevice with
  | [myNextDevice] =>
    if c.deviceType theDevice ≠ c.deviceType myNextDevice ∧ !isSameMos (c.deviceType theDevice) (c.deviceType myNextDevice) then
      unknownDevice
    else myNextDevice
  | _ => unknownDevice

/-- The gate net of the input of a transistor that leads to its ground or power, in `FindUniqueMosInputs`. -/
def mosInput (theRailNet : Nat) (myRail : CPower) (device theDrainNet : Nat) : Except Failure (Option Nat) :=
  if theDrainNet = theRailNet then pure (some (c.gateNet device))
  else if c.isOnGate s device myRail then
    let myNextMos := c.getNextInSeries device theDrainNet
    if myNextMos = unknownDevice then pure none
    else do
      if (← c.oppositeNet myNextMos theDrainNet) = theRailNet then pure (some (c.gateNet myNextMos)) else pure none
  else pure none

/-- The devices of a list that the loop of `FindUniqueMosInputs` does not skip, with the nets on their other sides. -/
def activeMos (theDrainNet : Nat → Nat) (devices : List Nat) : List (Nat × Nat) :=
  (devices.filter fun d => c.sourceNet d != c.drainNet d && ((c.deviceType d).isNmos || (c.deviceType d).isPmos)).map
    fun d => (d, theDrainNet d)

/-- `CCvcDb::FindUniqueMosInputs`: whether the check is OK, and the inputs. -/
def findUniqueMosInputs (theRailNet : Bool → Nat) (myRail : Bool → CPower) :
    List (Nat × Nat) → (Bool → Nat) → Except Failure (Bool × (Bool → Nat))
  | [], theInput => pure (true, theInput)
  | (device, theDrainNet) :: devices, theInput => do
    let isNmos := (c.deviceType device).isNmos
    match ← c.mosInput s (theRailNet isNmos) (myRail isNmos) device theDrainNet with
    | some gateNet =>
      if theInput isNmos = unknownNet ∨ theInput isNmos = gateNet then
        findUniqueMosInputs theRailNet myRail devices (Function.update theInput isNmos gateNet)
      else pure (false, theInput)
    | none => pure (false, theInput)

/-- The power of a net, if it is one with the `POWER_BIT`. -/
def powerOf (theNetId : Nat) : Option CPower := ((s.netVoltagePtr theNetId).map s.power).filter (·.type.powerBit)

/-- `CCvcDb::FindInverterInput`. -/
def findInverterInput (theOutputNet : Nat) : Except Failure Nat :=
  match CVirtualNet.operatorCall (s.virtualNet .minQueue) theOutputNet,
    CVirtualNet.operatorCall (s.virtualNet .maxQueue) theOutputNet with
  | some (myMinOutput, _), some (myMaxOutput, _) =>
    match powerOf s myMinOutput.finalNetId, powerOf s myMaxOutput.finalNetId with
    | some myGround, some myPower => do
      let find := c.findUniqueMosInputs s (cond · myMinOutput.finalNetId myMaxOutput.finalNetId) (cond · myGround myPower)
      let (mySourceCheck, myInput) ← find (c.activeMos c.drainNet (c.sources theOutputNet)) fun _ => unknownNet
      let (myDrainCheck, myInput) ← find (c.activeMos c.sourceNet (c.drains theOutputNet)) myInput
      pure (if mySourceCheck && myDrainCheck && myInput true != unknownNet && myInput true == myInput false then myInput true
        else unknownNet)
    | _, _ => pure unknownNet
  | _, _ => .error .assertion

end FlatCircuit
end Cvc
