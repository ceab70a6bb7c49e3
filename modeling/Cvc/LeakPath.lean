import Cvc.DeviceLists

/-!
# Leak paths and parallel devices

The tests of `FindFloatingInputErrors` for a device with a floating gate. `CCvcDb::HasLeakPath` looks for a path between the
powers of its source and its drain; each of its four tests of a Hi-Z power may end it. `CFullConnection::HasParallelShort` looks
for a device of the same kind between the same nets that is on. The lists of devices of a net are the ones `firstSource_v` and
`firstDrain_v` begin.
-/

namespace Cvc

/-- What `HasLeakPath` reads besides the device: `finalNetId` of the min and max nets, `IsRelatedPower` with its default false,
and the threshold. -/
structure LeakEnv where
  nets : PowerNets
  finalNetId : CalculatedBit → Nat → Nat
  isRelatedPower : Nat → Nat → CalculatedBit → CalculatedBit → Bool
  cvcFloatingErrorThreshold : Int := 0

namespace LeakEnv

variable (env : LeakEnv)

/-- A test of a Hi-Z power against the power at the far end of the other terminal, if it ends the function. -/
def hizPath (bit testBit : CalculatedBit) (active : PowerActive → Bool) (power testPower : Option Nat) (testNet : Nat)
    (testVoltage : Int) : Option Bool :=
  power.bind fun p =>
    if !active (env.nets.power p).active then some false
    else testPower.bind fun q =>
      if !(env.nets.power p).type.hizBit then none
      else if testNet == env.nets.next testBit testNet && testVoltage == unknownVoltage then some false
      else some (!env.isRelatedPower p q bit testBit)

/-- The test of the min power of a terminal. -/
def minHizPath (t test : Terminal) : Option Bool :=
  env.hizPath .min .max (·.minActive) t.minPower test.maxPower test.netId test.maxVoltage

/-- The test of the max power of a terminal. -/
def maxHizPath (t test : Terminal) : Option Bool :=
  env.hizPath .max .min (·.maxActive) t.maxPower test.minPower test.netId test.minVoltage

/-- The sim power of a terminal was calculated from the other one. -/
def isOwnSim (t other : Terminal) : Bool := t.simPower.any fun p => (env.nets.power p).defaultSimNet == other.netId

/-- The net that the min or max voltage of a terminal comes from. -/
def fromNet (bit : CalculatedBit) (t : Terminal) : Nat :=
  match env.nets.netVoltagePtr t.netId with
  | none => env.nets.next bit t.netId
  | some p =>
    if (env.nets.power p).calculated bit && (env.nets.power p).defaultNet bit != unknownNet then (env.nets.power p).defaultNet bit
    else env.nets.next bit t.netId

/-- The min and max paths of a terminal come from the other one or do not exist. -/
def onlyFrom (t other : Terminal) : Bool :=
  (env.fromNet .min t == other.netId || t.minVoltage == unknownVoltage) &&
    (env.fromNet .max t == other.netId || t.maxVoltage == unknownVoltage)

/-- `DefaultMinVoltage` and `DefaultMaxVoltage`. -/
def defaultVoltage (bit : CalculatedBit) (voltage : CPower → Int) (thePower : CPower) : Int :=
  if thePower.defaultNet bit == unknownNet then unknownVoltage
  else ((env.nets.netVoltagePtr (env.finalNetId bit (thePower.defaultNet bit))).map fun p => voltage (env.nets.power p)).getD
    unknownVoltage

/-- A voltage of a terminal, or the default one if it was calculated. -/
def leakVoltage (bit : CalculatedBit) (voltage : CPower → Int) (power : Option Nat) (terminalVoltage : Int) : Int :=
  match power with
  | none => terminalVoltage
  | some p =>
    if (env.nets.power p).calculated bit then env.defaultVoltage bit voltage (env.nets.power p) else terminalVoltage

def minLeakVoltage (t : Terminal) : Int := env.leakVoltage .min (·.minVoltage) t.minPower t.minVoltage

def maxLeakVoltage (t : Terminal) : Int := env.leakVoltage .max (·.maxVoltage) t.maxPower t.maxVoltage

/-- The min voltage of a terminal is under the max voltage of the other one. -/
def isBelow (t other : Terminal) : Bool :=
  env.minLeakVoltage t != unknownVoltage && env.maxLeakVoltage other != unknownVoltage &&
    decide (env.minLeakVoltage t < env.maxLeakVoltage other)

/-- The sim voltages are closer than the threshold. -/
def isNear (source drain : Terminal) : Bool :=
  decide (((source.simVoltage - drain.simVoltage).natAbs : Int) < env.cvcFloatingErrorThreshold)

/-- The tests of `HasLeakPath` after those of the Hi-Z powers. -/
def hasVoltagePath (source drain : Terminal) : Bool :=
  if env.isOwnSim source drain then false
  else if env.isOwnSim drain source then false
  else if source.simVoltage != unknownVoltage && env.isNear source drain then false
  else if env.onlyFrom source drain then false
  else if env.onlyFrom drain source then false
  else env.isBelow source drain || env.isBelow drain source

/-- `CCvcDb::HasLeakPath`. -/
def hasLeakPath (source drain : Terminal) : Bool :=
  (env.minHizPath source drain).getD ((env.minHizPath drain source).getD ((env.maxHizPath source drain).getD
    ((env.maxHizPath drain source).getD (env.hasVoltagePath source drain))))

end LeakEnv

/-- What `HasParallelShort` reads besides the device. -/
structure ParallelEnv where
  connectionCount : Nat → CConnectionCount
  sourceDevices : Nat → List Nat
  drainDevices : Nat → List Nat
  deviceType : Nat → ModelType
  sourceNet : Nat → Nat
  drainNet : Nat → Nat
  mapDeviceNets : Nat → CFullConnection

/-- The device is on: its gate is more than Vth over the min voltage (NMOS) or under the max voltage (PMOS) of the terminal. -/
def CFullConnection.isOnAt (c : CFullConnection) (isNmos : Bool) (t : Terminal) : Bool :=
  c.gate.simVoltage != unknownVoltage &&
    if isNmos then decide (c.gate.simVoltage > t.minVoltage + c.vth) else decide (c.gate.simVoltage < t.maxVoltage + c.vth)

namespace ParallelEnv

variable (env : ParallelEnv)

/-- The least connected of the two nets of a device, and the other one. -/
def ends (c : CFullConnection) : Nat × Nat :=
  if (env.connectionCount c.drain.netId).sourceDrainCount < (env.connectionCount c.source.netId).sourceDrainCount then
    (c.drain.netId, c.source.netId)
  else (c.source.netId, c.drain.netId)

/-- A device that is not skipped: another one of the same kind. -/
def isCandidate (deviceId : Nat) (isNmos : Bool) (d : Nat) : Bool :=
  d != deviceId && if isNmos then (env.deviceType d).isNmos else (env.deviceType d).isPmos

/-- `CFullConnection::HasParallelShort`, of a MOS device. -/
def hasParallelShort (deviceId : Nat) (c : CFullConnection) : Bool :=
  let (myDrainId, mySourceId) := env.ends c
  let isNmos := c.type.isNmos
  ((env.sourceDevices myDrainId).any fun d => env.isCandidate deviceId isNmos d && env.drainNet d == mySourceId &&
    (env.mapDeviceNets d).isOnAt isNmos (env.mapDeviceNets d).drain) ||
  (env.drainDevices myDrainId).any fun d => env.isCandidate deviceId isNmos d && env.sourceNet d == mySourceId &&
    (env.mapDeviceNets d).isOnAt isNmos (env.mapDeviceNets d).source

end ParallelEnv
end Cvc
