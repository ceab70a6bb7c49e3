import Cvc.Propagation

/-!
# Circuits given by their devices

A flat circuit whose nets have no equivalents, from the list of its devices, and the state of a propagation after
`ResetMinSimMaxAndQueues`, `SetInstancePower` and `LinkDevices`. `LinkDevices` puts every device in front of the lists of its
nets.
-/

namespace Cvc

/-- A device of a flat circuit, between different nets. -/
structure FlatDevice where
  type : ModelType
  source : Nat
  gate : Nat := unknownNet
  drain : Nat
  bulk : Nat := unknownNet
  vth : Int := 0
  resistance : Nat := 1
  deriving DecidableEq, Repr

/-- The device of a number; past the end there is no device. -/
def FlatDevice.at (devices : List FlatDevice) (d : Nat) : FlatDevice :=
  devices.getD d { type := .box, source := unknownNet, drain := unknownNet }

/-- The circuit of some devices; it has no more nets than there are ids. -/
def FlatCircuit.ofDevices (netCount : Nat) (devices : List FlatDevice) (length_le : devices.length ≤ unknownDevice)
    (isFixedSimNet leakVoltageSet : Bool) : FlatCircuit :=
  let attached (net : FlatDevice → Nat) (n : Nat) : List Nat :=
    (List.range devices.length).reverse.filter fun d => net (FlatDevice.at devices d) == n
  { netCount := min netCount unknownNet
    netCount_le := Nat.min_le_right ..
    deviceCount := devices.length
    deviceCount_le := length_le
    deviceType := fun d => (FlatDevice.at devices d).type
    isResistor := fun d => (FlatDevice.at devices d).type == .resistor
    vth := fun d => int16 (FlatDevice.at devices d).vth
    vth_isVoltage := fun _ => isVoltage_int16 _
    resistance := fun d => (FlatDevice.at devices d).resistance
    sourceNet := fun d => (FlatDevice.at devices d).source
    gateNet := fun d => (FlatDevice.at devices d).gate
    drainNet := fun d => (FlatDevice.at devices d).drain
    bulkNet := fun d => (FlatDevice.at devices d).bulk
    sources := attached FlatDevice.source
    drains := attached FlatDevice.drain
    gates := attached FlatDevice.gate
    device_lt := fun n d hd => by
      have hmem : ∀ net, d ∈ attached net n → d < devices.length := fun net h => by simpa using (List.mem_filter.1 h).1
      rcases List.mem_append.1 hd with hd | hd
      · exact (List.mem_append.1 hd).elim (hmem _) (hmem _)
      · exact hmem _ hd
    equivalentNet := id
    leakNet := fun _ _ => none
    walkOrder := id
    walkOrder_perm := fun l => .refl l
    isFixedSimNet := isFixedSimNet
    leakVoltageSet := leakVoltageSet
    netName := toString
    deviceName := toString }

/-- The connection count of a net. -/
def CConnectionCount.ofDevices (devices : List FlatDevice) (n : Nat) : CConnectionCount where
  sourceCount := devices.countP (·.source == n)
  drainCount := devices.countP (·.drain == n)
  gateCount := devices.countP (·.gate == n)
  sourceDrainType type :=
    devices.any fun device =>
      (if device.type.isNmos then .nmos else if device.type.isPmos then .pmos else device.type) == type &&
        (device.source == n || device.drain == n)

/-- The voltages of a power as they are stored. -/
def CPower.stored (power : CPower) : CPower :=
  { power with minVoltage := int16 power.minVoltage, simVoltage := int16 power.simVoltage, maxVoltage := int16 power.maxVoltage }

/-- The nets with some powers, each at its net, and no links. -/
def NetState.ofPowers (netCount : Nat) (devices : List FlatDevice) (powers : List CPower) : NetState where
  power p := (powers.getD p {}).stored
  isVoltage _ queue := by cases queue <;> exact isVoltage_int16 _
  powerCount := powers.length
  cvcPowerPtrList := List.range powers.length
  netVoltagePtr n := (List.range powers.length).find? fun p => (powers.getD p {}).netId == n
  leakVoltagePtr _ := none
  virtualNet _ := .selfLinked netCount
  netStatus _ := {}
  connectionCount := CConnectionCount.ofDevices devices
  minConnectionDependencyMap := []
  maxConnectionDependencyMap := []

/-- The devices and the queues after their reset. -/
def DeviceState.reset (deviceCount : Nat) : DeviceState where
  deviceStatus _ := {}
  queue queue := CEventQueue.resetQueue ⟨queue, 0, fun _ => unknownDevice, [], [], 0, 0⟩ deviceCount
  queueStart _ := false
  conflict := none

end Cvc
