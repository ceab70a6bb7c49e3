import Cvc.Lib.Buckets
import Cvc.Connection
import Cvc.VirtualNet

/-!
# The device lists of the nets

`LinkDevices` and `ShortNonConductingResistors` of `CCvcDb_init.cc`. The devices of a net are kept in three lists, by the terminal
that is connected to it: `firstSource_v` has the first device of each net, `nextSource_v` the next one of each device, and
`sourceNet_v` the net of each device; the drains and the gates have vectors of their own. `connectionCount_v` counts the devices
of each net.

A resistor at a net that has no other connection and no power carries no current. It is shorted: the lists of the net are emptied
into those of the other net of the resistor, and if that net is then left with one connection, its resistor is shorted next.

A loop along a list is followed for as many devices as there are, and the recursion for a number of levels. The names of nets and
devices are only in messages. `sourceDrainSet` of the master device is left out, as nothing here reads it.
-/

namespace Cvc

open Function (update)

/-- A device of an instance, with the nets of its signals: `localToGlobalNetId_v` of each of `signalId_v`. -/
structure DeviceEntry where
  id : Nat
  type : ModelType
  signals : List Nat
  deriving DecidableEq, Repr

structure CConnectionCount where
  sourceCount : Nat := 0
  drainCount : Nat := 0
  gateCount : Nat := 0
  sourceDrainType : ModelType → Bool := fun _ => false

def CConnectionCount.sourceDrainCount (count : CConnectionCount) : Nat := count.sourceCount + count.drainCount

/-- The devices in the order of the loops of `LinkDevices` (circuits, instances that are not parallel, devices), and what was set
before: the equivalent nets, the powers, the status of the devices and the virtual nets. Only the switches have been ignored so
far. -/
structure LinkCircuit where
  netCount : Nat
  netCount_le : netCount ≤ unknownNet
  deviceCount : Nat
  deviceCount_le : deviceCount ≤ unknownDevice
  portCount : Nat
  cvcSOI : Bool
  getEquivalentNet : Nat → Nat
  netVoltagePtr : Nat → Option Nat
  deviceStatus : Nat → DeviceStatus
  virtualNet : CalculatedBit → CVirtualNetVector
  netName : Nat → String
  deviceName : Nat → String
  devices : List DeviceEntry
  ids_nodup : (devices.map DeviceEntry.id).Nodup
  id_lt : ∀ d ∈ devices, d.id < deviceCount
  net_lt : ∀ d ∈ devices, ∀ n ∈ d.signals, getEquivalentNet n < netCount
  active : ∀ d ∈ devices, d.type ≠ .switchOn → (deviceStatus d.id).simInactive = false

structure LinkState where
  source : Buckets Nat Nat
  drain : Buckets Nat Nat
  gate : Buckets Nat Nat
  bulkNet : Nat → Nat
  connectionCount : Nat → CConnectionCount
  deviceType : Nat → Option ModelType
  deviceStatus : Nat → DeviceStatus
  virtualNet : CalculatedBit → CVirtualNetVector

/-- `CCvcDb::IgnoreDevice`. -/
def ignoredDevice : DeviceStatus := { maxInactive := true, minInactive := true, simInactive := true }

namespace LinkCircuit

variable (c : LinkCircuit)

/-! ## Linking -/

variable (s : LinkState) (d : DeviceEntry)

/-- The equivalent net of a signal of a device. -/
def signalNet (i : Nat) : Except Failure Nat :=
  match d.signals[i]? with
  | some n => .ok (c.getEquivalentNet n)
  | none => .error .undefined

/-- The net of the bulk, if the device has one. -/
def bulkSignalNet (hasBulk : Bool) (i : Nat) : Except Failure Nat :=
  if hasBulk then c.signalNet d i else .ok unknownNet

/-- `CCvcDb::SetDeviceNets`: the nets of the source, the gate, the drain and the bulk. -/
def setDeviceNets : Except Failure (Nat × Nat × Nat × Nat) :=
  match d.type with
  | .nmos | .pmos | .lddn | .lddp => do
    let theDrainId ← c.signalNet d 0
    let theGateId ← c.signalNet d 1
    let theSourceId ← c.signalNet d 2
    let theBulkId ← c.bulkSignalNet d (!c.cvcSOI) 3
    pure (theSourceId, theGateId, theDrainId, theBulkId)
  | .diode | .switchOff | .fuseOff | .capacitor | .switchOn | .fuseOn | .resistor => do
    let theSourceId ← c.signalNet d 0
    let theDrainId ← c.signalNet d 1
    let theBulkId ← c.bulkSignalNet d (d.signals.length == 3) 2
    pure (theSourceId, unknownNet, theDrainId, theBulkId)
  | .bipolar => do
    let theSourceId ← c.signalNet d 0
    let theGateId ← c.signalNet d 1
    let theDrainId ← c.signalNet d 2
    pure (theSourceId, theGateId, theDrainId, unknownNet)
  | .mosfet | .box => .error .eUnknownModel

/-- Put a device in front of the list of its net: the link is only written if there is a device already. -/
def linkTerminal (t : Buckets Nat Nat) (id : Nat) : Buckets Nat Nat :=
  let net := t.owner id
  { t with
    next := if t.first net ≠ unknownDevice then update t.next id (t.first net) else t.next
    first := update t.first net id }

/-- The case of the transistors in `LinkDevices`, up to where it continues with that of the resistors. -/
def linkGate (id : Nat) : LinkState :=
  let myGateNet := s.gate.owner id
  let count := s.connectionCount myGateNet
  { s with
    gate := linkTerminal s.gate id
    connectionCount := update s.connectionCount myGateNet { count with gateCount := count.gateCount + 1 } }

/-- The connection counts with the source and the drain of a new device. -/
def addConnections (connectionCount : Nat → CConnectionCount) (mySourceNet myDrainNet : Nat) (myDeviceType : ModelType) :
    Nat → CConnectionCount :=
  let count := connectionCount mySourceNet
  let connectionCount := update connectionCount mySourceNet
    { count with
      sourceCount := count.sourceCount + 1
      sourceDrainType := update count.sourceDrainType myDeviceType true }
  let count := connectionCount myDrainNet
  update connectionCount myDrainNet
    { count with
      drainCount := count.drainCount + 1
      sourceDrainType := update count.sourceDrainType myDeviceType true }

/-- The case of the fuses and the resistors in `LinkDevices`. -/
def linkSourceDrain (id : Nat) (type : ModelType) : Except Failure LinkState :=
  let myDeviceType := if type.isNmos then .nmos else if type.isPmos then .pmos else type
  let mySourceNet := s.source.owner id
  let myDrainNet := s.drain.owner id
  if myDrainNet = mySourceNet then .error (.assertionFailed "myDrainNet != mySourceNet")
  else
    .ok { s with
      source := linkTerminal s.source id
      drain := linkTerminal s.drain id
      connectionCount := addConnections s.connectionCount mySourceNet myDrainNet myDeviceType }

/-- The type and the nets of a device, written before it is linked. -/
def setDevice (mySourceNet myGateNet myDrainNet myBulkNet : Nat) : LinkState :=
  { s with
    deviceType := update s.deviceType d.id (some d.type)
    source := { s.source with owner := update s.source.owner d.id mySourceNet }
    gate := { s.gate with owner := update s.gate.owner d.id myGateNet }
    drain := { s.drain with owner := update s.drain.owner d.id myDrainNet }
    bulkNet := update s.bulkNet d.id myBulkNet }

/-- One round of the loops of `CCvcDb::LinkDevices`. -/
def linkDevice : Except Failure LinkState := do
  let (mySourceNet, myGateNet, myDrainNet, myBulkNet) ← c.setDeviceNets d
  let s := setDevice s d mySourceNet myGateNet myDrainNet myBulkNet
  if mySourceNet = myDrainNet then
    pure { s with deviceStatus := update s.deviceStatus d.id ignoredDevice }
  else
    match d.type with
    | .nmos | .pmos | .lddn | .lddp => linkSourceDrain (linkGate s d.id) d.id d.type
    | .fuseOn | .fuseOff | .resistor => linkSourceDrain s d.id d.type
    | .switchOn => pure s
    | .bipolar | .diode | .switchOff | .capacitor =>
      pure { s with deviceStatus := update s.deviceStatus d.id ignoredDevice }
    | .mosfet | .box => .error .eUnknownModel

/-- Empty lists. -/
def noDevices : Buckets Nat Nat where
  first _ := unknownDevice
  next _ := unknownDevice
  owner _ := unknownNet

/-- The vectors after the resets of `LinkDevices`. -/
def unlinked : LinkState where
  source := noDevices
  drain := noDevices
  gate := noDevices
  bulkNet _ := unknownNet
  connectionCount _ := {}
  deviceType _ := none
  deviceStatus := c.deviceStatus
  virtualNet := c.virtualNet

/-- `CCvcDb::LinkDevices`. -/
def linkDevices : Except Failure LinkState := c.devices.foldlM c.linkDevice c.unlinked

/-! ## Shorting -/

/-- The devices of a list, in the order of a loop along it. -/
def devicesOf (t : Buckets Nat Nat) (theNetId : Nat) : Except Failure (List Nat) :=
  match Buckets.follow unknownDevice t.next c.deviceCount (t.first theNetId) with
  | some devices => .ok devices
  | none => .error .endless

/-- `CCvcDb::FindUniqueSourceDrainConnectedDevice`. -/
def findUniqueSourceDrainConnectedDevice (theNetId : Nat) : Except Failure Nat := do
  let sources ← c.devicesOf s.source theNetId
  let drains ← c.devicesOf s.drain theNetId
  (sources ++ drains).foldlM (fun myResultDeviceId device => do
    if s.deviceType device = some .resistor ∧ (s.deviceStatus device).simInactive = false then
      if myResultDeviceId ≠ unknownDevice then
        .error (.eDatabaseError ("FindUniqueSourceDrainConnectedDevice: " ++ c.netName theNetId))
      else pure device
    else pure myResultDeviceId) unknownDevice

/-- `CCvcDb::MergeConnectionListByTerminals`. -/
def mergeConnectionListByTerminals (theFromNet theToNet : Nat) (t : Buckets Nat Nat) : Except Failure (Buckets Nat Nat) :=
  match Buckets.pour unknownDevice c.deviceCount theFromNet theToNet t with
  | some t' => .ok t'
  | none => .error .endless

/-- `CCvcDb::RecountConnections`. -/
def recountConnections (theNetId : Nat) (t : Buckets Nat Nat) : Except Failure Nat := do
  pure (← c.devicesOf t theNetId).length

/-- The counts at the end of `MergeConnectionLists`, from the gates counted anew. -/
def mergeCounts (connectionCount : Nat → CConnectionCount) (theFromNet theToNet fromGates toGates : Nat) :
    Nat → CConnectionCount :=
  let count := connectionCount theFromNet
  let connectionCount := update connectionCount theFromNet { count with gateCount := fromGates }
  let count := connectionCount theToNet
  update connectionCount theToNet
    { count with
      gateCount := toGates
      sourceDrainType := fun type => count.sourceDrainType type || (connectionCount theFromNet).sourceDrainType type }

/-- `CCvcDb::MergeConnectionLists`. -/
def mergeConnectionLists (theFromNet theToNet : Nat) : Except Failure LinkState := do
  let gate ← c.mergeConnectionListByTerminals theFromNet theToNet s.gate
  let source ← c.mergeConnectionListByTerminals theFromNet theToNet s.source
  let drain ← c.mergeConnectionListByTerminals theFromNet theToNet s.drain
  let fromGates ← c.recountConnections theFromNet gate
  let toGates ← c.recountConnections theToNet gate
  pure { s with
    gate := gate
    source := source
    drain := drain
    connectionCount := mergeCounts s.connectionCount theFromNet theToNet fromGates toGates }

/-- `shortDirection_t`. -/
inductive ShortDirection where
  | sourceToMasterDrain
  | drainToMasterSource
  deriving DecidableEq, Repr

/-- The link of a net to another one in one of the vectors of virtual nets, with a time of its own. -/
def setVirtualNet (v : CVirtualNetVector) (theFirstNet theSecondNet : Nat) : Except Failure CVirtualNetVector :=
  match v.setLater theFirstNet theSecondNet 1 with
  | some v' => .ok v'
  | none => .error (.assertionFailed "myLinkCount < 5021")

/-- The connection counts when the two connections of a resistor are taken away; neither count is zero. -/
def removeConnections (connectionCount : Nat → CConnectionCount) (theFirstNet theSecondNet : Nat) :
    ShortDirection → Nat → CConnectionCount
  | .sourceToMasterDrain =>
    let first := connectionCount theFirstNet
    let connectionCount := update connectionCount theFirstNet { first with sourceCount := first.sourceCount - 1 }
    let second := connectionCount theSecondNet
    update connectionCount theSecondNet { second with drainCount := second.drainCount - 1 }
  | .drainToMasterSource =>
    let first := connectionCount theFirstNet
    let connectionCount := update connectionCount theFirstNet { first with drainCount := first.drainCount - 1 }
    let second := connectionCount theSecondNet
    update connectionCount theSecondNet { second with sourceCount := second.sourceCount - 1 }

/-- `minNet_v`, `simNet_v` and `maxNet_v`. -/
def virtualNetsOf (minNet simNet maxNet : CVirtualNetVector) : CalculatedBit → CVirtualNetVector
  | .min => minNet
  | .sim => simNet
  | .max => maxNet

/-- What `ShortNonConductingResistor` writes before it merges the lists. -/
def removeResistor (theDeviceId theFirstNet theSecondNet : Nat) (theDirection : ShortDirection)
    (virtualNet : CalculatedBit → CVirtualNetVector) : LinkState :=
  { s with
    deviceStatus := update s.deviceStatus theDeviceId
      { s.deviceStatus theDeviceId with maxInactive := true, minInactive := true, simInactive := true }
    connectionCount := removeConnections s.connectionCount theFirstNet theSecondNet theDirection
    virtualNet := virtualNet }

/-- `CCvcDb::ShortNonConductingResistor`, up to the assertion. -/
def shortResistor (theDeviceId theFirstNet theSecondNet : Nat) (theDirection : ShortDirection) : Except Failure LinkState := do
  let minNet ← setVirtualNet (s.virtualNet .min) theFirstNet theSecondNet
  let simNet ← setVirtualNet (s.virtualNet .sim) theFirstNet theSecondNet
  let maxNet ← setVirtualNet (s.virtualNet .max) theFirstNet theSecondNet
  let s ← c.mergeConnectionLists
    (removeResistor s theDeviceId theFirstNet theSecondNet theDirection (virtualNetsOf minNet simNet maxNet))
      theFirstNet theSecondNet
  if (s.connectionCount theFirstNet).sourceDrainCount = 0 then pure s
  else .error (.assertionFailed "connectionCount_v[theFirstNet].SourceDrainCount() == 0")

/-- `CCvcDb::ShortNonConductingResistor`. -/
def shortNonConductingResistor : Nat → LinkState → Nat → Nat → Nat → ShortDirection → Except Failure LinkState
  | levels, s, theDeviceId, theFirstNet, theSecondNet, theDirection => do
    let s ← c.shortResistor s theDeviceId theFirstNet theSecondNet theDirection
    if (s.connectionCount theSecondNet).sourceDrainCount = 1 ∧ c.netVoltagePtr theSecondNet = none then
      let myConnectedDeviceId ← c.findUniqueSourceDrainConnectedDevice s theSecondNet
      if myConnectedDeviceId = unknownDevice then pure s
      else
        match levels with
        | 0 => .error .endless
        | levels + 1 =>
          if s.source.owner myConnectedDeviceId = theSecondNet then
            shortNonConductingResistor levels s myConnectedDeviceId theSecondNet (s.drain.owner myConnectedDeviceId)
              .sourceToMasterDrain
          else if s.drain.owner myConnectedDeviceId = theSecondNet then
            shortNonConductingResistor levels s myConnectedDeviceId theSecondNet (s.source.owner myConnectedDeviceId)
              .drainToMasterSource
          else .error (.eDatabaseError ("ShortNonConductingResistor: " ++ c.deviceName myConnectedDeviceId))
    else pure s

/-- A net that is no port, has one connection and no power. -/
def isDeadEnd (net : Nat) : Bool :=
  c.portCount ≤ net && (s.connectionCount net).sourceDrainCount == 1 && (c.netVoltagePtr net).isNone

/-- One round of the loop of `CCvcDb::ShortNonConductingResistors`. -/
def shortDevice (levels : Nat) (s : LinkState) (device : Nat) : Except Failure LinkState :=
  if s.deviceType device = some .resistor ∧ (s.deviceStatus device).simInactive = false then
    let sourceNet := s.source.owner device
    let drainNet := s.drain.owner device
    if c.isDeadEnd s sourceNet then c.shortNonConductingResistor levels s device sourceNet drainNet .sourceToMasterDrain
    else if c.isDeadEnd s drainNet then c.shortNonConductingResistor levels s device drainNet sourceNet .drainToMasterSource
    else pure s
  else pure s

/-- `CCvcDb::ShortNonConductingResistors`. -/
def shortNonConductingResistors (levels : Nat) (s : LinkState) : Except Failure LinkState :=
  (List.range c.deviceCount).foldlM (c.shortDevice levels) s

end LinkCircuit
end Cvc
