import Cvc.Lib.Program
import Cvc.DeviceLists
import Cvc.EventQueue

/-!
# The nets of a circuit and their voltages

What the propagations of voltages in `CCvcDb.cc` know of the nets: the powers, the vectors of virtual nets with their caches, the
flags of estimated voltages and the types of the connected devices. The functions here read it; a read through the virtual nets
brings a cache up to date, so it changes the state as well.

The lists of devices of a net (`firstSource_v` and `nextSource_v`, and those of the other terminals) are lists; that following the
links from a net gives such a list is shown for `LinkDevices` and the shorts after it. `leakNet` is the end of the chain of
`backupNetId` of a net; nothing here writes these. `walkOrder` is the order in which an `unordered_map` is walked. Reports, and
the reads that are only made for them, are left out.
-/

namespace Cvc

open Program

/-- The numbers a `voltage_t` holds. -/
def IsVoltage (v : Int) : Prop := -2 ^ 15 ≤ v ∧ v < 2 ^ 15

theorem isVoltage_unknownVoltage : IsVoltage unknownVoltage := ⟨by decide, by decide⟩

theorem isVoltage_int16 (v : Int) : IsVoltage (int16 v) := by
  have hle := @Int.le_bmod v (2 ^ 16) (by decide)
  have hlt := @Int.bmod_lt v (2 ^ 16) (by decide)
  unfold IsVoltage int16
  omega

/-- A number stored in 32 bits without a sign, as a `resistance_t` or a `deviceId_t`. -/
def uint32 (r : Nat) : Nat := r % 2 ^ 32

/-- `IsMos_`. -/
def ModelType.isMos (type : ModelType) : Bool := type.isNmos || type.isPmos

/-- A model type of a fuse. -/
def ModelType.isFuse (type : ModelType) : Bool := type == .fuseOn || type == .fuseOff

/-- The flags of `netStatus_t` about voltages that are estimated. -/
structure NetFlags where
  needsMinCheck : Bool := false
  needsMaxCheck : Bool := false
  needsMinConnection : Bool := false
  needsMaxConnection : Bool := false
  deriving DecidableEq, Repr

/-- The ways a function on nets does not return. `walk` stands for the assertions of `CVirtualNet::operator()` and
`CVirtualNetVector::Set` on the length of a walk and the resistance it finds. -/
inductive NetFailure where
  | walk
  | assertion (expression : String)
  | undefined
  | eDatabaseError (message : String)
  deriving DecidableEq, Repr

def NetFailure.toFailure : NetFailure → Failure
  | .walk => .assertion
  | .assertion expression => .assertionFailed expression
  | .undefined => .undefined
  | .eDatabaseError message => .eDatabaseError message

/-- The voltage of a power that a queue is about. -/
def CPower.queueVoltage (power : CPower) : EventQueueType → Int
  | .minQueue => power.minVoltage
  | .simQueue => power.simVoltage
  | .maxQueue => power.maxVoltage

/-- The voltages of a power are checked one by one. -/
theorem CPower.isVoltage_of {power : CPower} (hmin : IsVoltage power.minVoltage) (hsim : IsVoltage power.simVoltage)
    (hmax : IsVoltage power.maxVoltage) (queue : EventQueueType) : IsVoltage (power.queueVoltage queue) := by
  cases queue <;> assumption

/-- The bit of the calculated voltages of a queue: `virtualNet_v.calculatedBit`. -/
def EventQueueType.calculatedBit : EventQueueType → CalculatedBit
  | .minQueue => .min
  | .simQueue => .sim
  | .maxQueue => .max

/-- `CVirtualNet::operator==`. -/
def CVirtualNet.isEqual (net theTestNet : CVirtualNet) : Bool :=
  net.nextNetId == theTestNet.nextNetId && net.resistance == theTestNet.resistance

/-- The flat circuit, with what was set before a propagation and is not changed by it. -/
structure FlatCircuit where
  netCount : Nat
  netCount_le : netCount ≤ unknownNet
  deviceCount : Nat
  deviceCount_le : deviceCount ≤ unknownDevice
  deviceType : Nat → ModelType
  /-- `CDevice::IsResistor`: the name of the device in its circuit begins with `R` -/
  isResistor : Nat → Bool
  /-- `model_p->Vth` -/
  vth : Nat → Int
  vth_isVoltage : ∀ d, IsVoltage (vth d)
  /-- `parameterResistanceMap` of the parameters of each device -/
  resistance : Nat → Nat
  sourceNet : Nat → Nat
  gateNet : Nat → Nat
  drainNet : Nat → Nat
  bulkNet : Nat → Nat
  sources : Nat → List Nat
  drains : Nat → List Nat
  gates : Nat → List Nat
  device_lt : ∀ n, ∀ d ∈ sources n ++ drains n ++ gates n, d < deviceCount
  equivalentNet : Nat → Nat
  leakNet : EventQueueType → Nat → Option Nat
  walkOrder : List Nat → List Nat
  walkOrder_perm : ∀ l, (walkOrder l).Perm l
  isFixedSimNet : Bool
  leakVoltageSet : Bool
  netName : Nat → String
  deviceName : Nat → String

/-- The nets in the course of a propagation. -/
structure NetState where
  power : Nat → CPower
  isVoltage : ∀ p queue, IsVoltage ((power p).queueVoltage queue)
  /-- the number of powers made so far; the next one gets this number -/
  powerCount : Nat
  cvcPowerPtrList : List Nat
  netVoltagePtr : Nat → Option Nat
  leakVoltagePtr : Nat → Option Nat
  virtualNet : EventQueueType → CVirtualNetVector
  netStatus : Nat → NetFlags
  connectionCount : Nat → CConnectionCount
  minConnectionDependencyMap : List (Nat × List Nat)
  maxConnectionDependencyMap : List (Nat × List Nat)

/-- A function on the nets. -/
abbrev NetM := EStateM NetFailure NetState

/-- `CConnection`: a device with its nets, the ends of their virtual nets for one queue, and the voltages and powers there. -/
structure CConnection where
  deviceId : Nat
  sourceId : Nat
  gateId : Nat
  drainId : Nat
  bulkId : Nat
  masterSourceNet : CVirtualNet
  masterGateNet : CVirtualNet
  masterDrainNet : CVirtualNet
  masterBulkNet : CVirtualNet
  sourceVoltage : Int
  gateVoltage : Int
  drainVoltage : Int
  bulkVoltage : Int
  sourcePower : Option Nat
  gatePower : Option Nat
  drainPower : Option Nat
  resistance : Nat

export LinkCircuit (ShortDirection)

namespace CConnection

variable (theConnections : CConnection)

/-- The net that a short in a direction links to the other one. -/
def slaveId : ShortDirection → Nat
  | .drainToMasterSource => theConnections.drainId
  | .sourceToMasterDrain => theConnections.sourceId

/-- The net that a short in a direction links to. -/
def masterId : ShortDirection → Nat
  | .drainToMasterSource => theConnections.sourceId
  | .sourceToMasterDrain => theConnections.drainId

def slaveVoltage : ShortDirection → Int
  | .drainToMasterSource => theConnections.drainVoltage
  | .sourceToMasterDrain => theConnections.sourceVoltage

def masterVoltage : ShortDirection → Int
  | .drainToMasterSource => theConnections.sourceVoltage
  | .sourceToMasterDrain => theConnections.drainVoltage

def slavePower : ShortDirection → Option Nat
  | .drainToMasterSource => theConnections.drainPower
  | .sourceToMasterDrain => theConnections.sourcePower

def masterPower : ShortDirection → Option Nat
  | .drainToMasterSource => theConnections.sourcePower
  | .sourceToMasterDrain => theConnections.drainPower

def slaveNet : ShortDirection → CVirtualNet
  | .drainToMasterSource => theConnections.masterDrainNet
  | .sourceToMasterDrain => theConnections.masterSourceNet

def masterNet : ShortDirection → CVirtualNet
  | .drainToMasterSource => theConnections.masterSourceNet
  | .sourceToMasterDrain => theConnections.masterDrainNet

end CConnection

variable (s : NetState) (thePower : Option Nat)

namespace NetState

/-! ## What the vectors hold -/

/-- `CPowerPtrVector::MinVoltage`, `SimVoltage` and `MaxVoltage`. -/
def voltage (queue : EventQueueType) (theNetId : Nat) : Int :=
  if theNetId = unknownNet then unknownVoltage
  else
    match s.netVoltagePtr theNetId with
    | none => unknownVoltage
    | some p => (s.power p).queueVoltage queue

/-- `power_p && power_p->type[HIZ_BIT]`. -/
def isHiz : Bool := thePower.any fun p => (s.power p).type.hizBit

/-- `CCvcDb::IsSCRCPower`. -/
def isSCRCPower : Bool :=
  thePower.any fun p => (s.power p).type.hizBit && (s.power p).minVoltage == (s.power p).maxVoltage

/-- The voltage at a net, with that of an SCRC power replaced by its minimum, which is its maximum as well. -/
def scrcVoltage (theVoltage : Int) : Int :=
  match thePower with
  | some p => if s.isSCRCPower (some p) then (s.power p).minVoltage else theVoltage
  | none => theVoltage

/-- `CConnection::IsUnknownSourceVoltage`. -/
def isUnknownSourceVoltage (theConnections : CConnection) : Bool :=
  theConnections.sourceVoltage == unknownVoltage && !s.isHiz theConnections.sourcePower

/-- `CConnection::IsUnknownDrainVoltage`. -/
def isUnknownDrainVoltage (theConnections : CConnection) : Bool :=
  theConnections.drainVoltage == unknownVoltage && !s.isHiz theConnections.drainPower

/-- `CCvcDb::IsVerifiedPower`. -/
def isVerifiedPower (theNetId : Nat) : Bool :=
  let status := s.netStatus theNetId
  !(status.needsMinCheck || status.needsMinConnection || status.needsMaxCheck || status.needsMaxConnection)

/-! ## Writes -/

def setVirtualNet (queue : EventQueueType) (v : CVirtualNetVector) : NetState :=
  { s with virtualNet := Function.update s.virtualNet queue v }

def setPower (p : Nat) (power : CPower) (h : ∀ queue, IsVoltage (power.queueVoltage queue)) : NetState :=
  { s with
    power := Function.update s.power p power
    isVoltage := fun p' queue => by
      by_cases hp : p' = p
      · subst hp
        simpa using h queue
      · simpa [hp] using s.isVoltage p' queue }

/-- Change a power without changing its voltages. -/
def modifyPower (p : Nat) (f : CPower → CPower) (h : ∀ power, (f power).queueVoltage = power.queueVoltage) : NetState :=
  s.setPower p (f (s.power p)) fun queue => by
    rw [h]
    exact s.isVoltage p queue

def modifyStatus (theNetId : Nat) (f : NetFlags → NetFlags) : NetState :=
  { s with netStatus := Function.update s.netStatus theNetId (f (s.netStatus theNetId)) }

end NetState

/-! ## Reads -/

/-- What a pointer to a power points to. -/
def powerAt : NetM CPower := fun s =>
  match thePower with
  | some p => .ok (s.power p) s
  | none => .error .undefined s

/-- `CVirtualNet::operator()` of the vector of a queue. -/
def virtualNetAt (queue : EventQueueType) (theNetId : Nat) : NetM CVirtualNet := fun s =>
  match CVirtualNet.operatorCall (s.virtualNet queue) theNetId with
  | some (net, v) => .ok net (s.setVirtualNet queue v)
  | none => .error .walk s

namespace FlatCircuit

variable (c : FlatCircuit)

/-- `CCvcDb::GetEquivalentNet`, after the equivalent nets were fixed. -/
def getEquivalentNet (s : NetState) (theNetId : Nat) : Nat :=
  if theNetId = unknownNet then unknownNet
  else
    match s.netVoltagePtr (c.equivalentNet theNetId) with
    | some p => if (s.power p).netId ≠ unknownNet then (s.power p).netId else c.equivalentNet theNetId
    | none => c.equivalentNet theNetId

variable (queue : EventQueueType) (theNetId : Nat)

/-- `assert(theNetId == GetEquivalentNet(theNetId))`. -/
def ensureEquivalent : NetM Unit := do
  let s ← read id
  ensure (theNetId == c.getEquivalentNet s theNetId) (.assertion "theNetId == GetEquivalentNet(theNetId)")

/-- The voltage at the end of the virtual nets of a net. -/
def finalVoltage (theSkipHiZFlag : Bool) : NetM Int :=
  if theNetId = unknownNet then pure unknownVoltage
  else do
    c.ensureEquivalent theNetId
    let net ← virtualNetAt queue theNetId
    read fun s =>
      if net.finalNetId ≠ unknownNet && theSkipHiZFlag && s.isHiz (s.netVoltagePtr net.finalNetId) then unknownVoltage
      else s.voltage queue net.finalNetId

/-- `CCvcDb::MinVoltage`. -/
def minVoltage (theSkipHiZFlag : Bool := false) : NetM Int := c.finalVoltage .minQueue theNetId theSkipHiZFlag

/-- `CCvcDb::MaxVoltage`. -/
def maxVoltage (theSkipHiZFlag : Bool := false) : NetM Int := c.finalVoltage .maxQueue theNetId theSkipHiZFlag

/-- `CCvcDb::SimVoltage`. -/
def simVoltage : NetM Int := c.finalVoltage .simQueue theNetId false

/-- The voltage of the power that was saved for the end of the backup nets of a net. -/
def leakVoltage : NetM Int :=
  if theNetId = unknownNet || !c.leakVoltageSet then pure unknownVoltage
  else do
    c.ensureEquivalent theNetId
    read fun s =>
      match (c.leakNet queue theNetId).bind s.leakVoltagePtr with
      | some p => (s.power p).queueVoltage queue
      | none => unknownVoltage

/-- `CCvcDb::MinLeakVoltage`. -/
def minLeakVoltage : NetM Int := c.leakVoltage .minQueue theNetId

/-- `CCvcDb::MaxLeakVoltage`. -/
def maxLeakVoltage : NetM Int := c.leakVoltage .maxQueue theNetId

/-- `CCvcDb::IsDerivedFromFloating`. -/
def isDerivedFromFloating : NetM Bool := do
  c.ensureEquivalent theNetId
  let net ← virtualNetAt queue theNetId
  read fun s => s.isHiz (s.netVoltagePtr net.finalNetId)

/-- The connections of a device, from the ends of the virtual nets of its terminals. -/
def connectionOf (s : NetState) (queue : EventQueueType) (theDeviceId : Nat)
    (masterSourceNet masterGateNet masterDrainNet masterBulkNet : CVirtualNet) : CConnection :=
  let sourcePower := s.netVoltagePtr masterSourceNet.finalNetId
  let drainPower := s.netVoltagePtr masterDrainNet.finalNetId
  { deviceId := theDeviceId
    sourceId := c.sourceNet theDeviceId
    gateId := c.gateNet theDeviceId
    drainId := c.drainNet theDeviceId
    bulkId := c.bulkNet theDeviceId
    masterSourceNet := masterSourceNet
    masterGateNet := masterGateNet
    masterDrainNet := masterDrainNet
    masterBulkNet := masterBulkNet
    sourceVoltage := s.scrcVoltage sourcePower (s.voltage queue masterSourceNet.finalNetId)
    gateVoltage := s.voltage queue masterGateNet.finalNetId
    drainVoltage := s.scrcVoltage drainPower (s.voltage queue masterDrainNet.finalNetId)
    bulkVoltage := s.voltage queue masterBulkNet.finalNetId
    sourcePower := sourcePower
    gatePower := if masterGateNet.finalNetId = unknownNet then none else s.netVoltagePtr masterGateNet.finalNetId
    drainPower := drainPower
    resistance := c.resistance theDeviceId }

/-- `CCvcDb::MapDeviceNets`, for the voltages of one queue. -/
def mapDeviceNets (theDeviceId : Nat) : NetM CConnection := do
  let masterSourceNet ← virtualNetAt queue (c.sourceNet theDeviceId)
  let masterGateNet ← virtualNetAt queue (c.gateNet theDeviceId)
  let masterDrainNet ← virtualNetAt queue (c.drainNet theDeviceId)
  let masterBulkNet ← virtualNetAt queue (c.bulkNet theDeviceId)
  read fun s => c.connectionOf s queue theDeviceId masterSourceNet masterGateNet masterDrainNet masterBulkNet

end FlatCircuit
end Cvc
