import Cvc.NetLinks

/-!
# Propagation of voltages

The functions of `CCvcDb.cc` that take a device from an event queue, decide what it does and put the devices behind it in a queue:
`PropagateResistorVoltages`, `PropagateMinMaxVoltages` and `PropagateSimVoltages`, with `EnqueueAttachedDevices` and
`VoltageConflict`, which calls it for devices in either queue.

Two things are recorded that the program does not have: `conflict`, the device that `VoltageConflict` is working on, and `calls`,
the devices and queues as they were at each call of `AddEvent` and `GetEvent`. Nothing reads them.
-/

namespace Cvc

open Program

namespace DeviceStatus

/-- `deviceStatus_v[device][theEventQueue.inactiveBit]`. -/
def inactive (status : DeviceStatus) : EventQueueType → Bool
  | .minQueue => status.minInactive
  | .simQueue => status.simInactive
  | .maxQueue => status.maxInactive

/-- `deviceStatus_v[device][theEventQueue.pendingBit]`. -/
def pending (status : DeviceStatus) : EventQueueType → Bool
  | .minQueue => status.minPending
  | .simQueue => status.simPending
  | .maxQueue => status.maxPending

def setInactive (status : DeviceStatus) : EventQueueType → DeviceStatus
  | .minQueue => { status with minInactive := true }
  | .simQueue => { status with simInactive := true }
  | .maxQueue => { status with maxInactive := true }

def setPending (status : DeviceStatus) (value : Bool) : EventQueueType → DeviceStatus
  | .minQueue => { status with minPending := value }
  | .simQueue => { status with simPending := value }
  | .maxQueue => { status with maxPending := value }

end DeviceStatus

/-- `CEventSubQueue::QueueTime`. -/
def CEventSubQueue.queueTime : CEventSubQueue → Int
  | [] => maxEventTime
  | (key, _) :: _ => key

namespace CEventQueue

/-- `CEventQueue::QueueTime`. -/
def queueTime (q : CEventQueue) (queueStart : Bool) : Int :=
  if !queueStart || q.mainQueue.isEmpty && q.delayQueue.isEmpty then 0
  else q.storedKey (min (CEventSubQueue.queueTime q.mainQueue) (CEventSubQueue.queueTime q.delayQueue))

/-- `CEventQueue::QueueSize`. -/
def size (q : CEventQueue) : Nat := uint32 (q.enqueueCount - q.dequeueCount)

end CEventQueue

/-- `CEventQueue::Later`, of two keys. -/
def EventQueueType.later : EventQueueType → Int → Int → Bool
  | .maxQueue, theFirstKey, theSecondKey => decide (theFirstKey < theSecondKey)
  | _, theFirstKey, theSecondKey => decide (theFirstKey > theSecondKey)

/-- The devices and the queues in the course of a propagation. -/
structure DeviceState where
  deviceStatus : Nat → DeviceStatus
  queue : EventQueueType → CEventQueue
  queueStart : EventQueueType → Bool
  conflict : Option (EventQueueType × Nat)

/-- The pending bit of a device for a queue. -/
def DeviceState.pending (s : DeviceState) (queue : EventQueueType) (d : Nat) : Bool := (s.deviceStatus d).pending queue

/-- The inactive bit of a device for a queue. -/
def DeviceState.inactive (s : DeviceState) (queue : EventQueueType) (d : Nat) : Bool := (s.deviceStatus d).inactive queue

/-- The nets, the devices and the record of calls. -/
structure PropagationState where
  nets : NetState
  devices : DeviceState
  calls : List DeviceState

/-- A function of the program. -/
abbrev DbM := EStateM Failure PropagationState

/-- Run a function on the nets. -/
def onNets {α : Type} (m : NetM α) : DbM α :=
    zoom PropagationState.nets (fun nets s => { s with nets := nets }) NetFailure.toFailure m

/-- Change the devices. -/
def modifyDevices (f : DeviceState → DeviceState) : DbM Unit := update fun s => { s with devices := f s.devices }

def setInactive (queue : EventQueueType) (d : Nat) : DbM Unit :=
  modifyDevices fun s => { s with deviceStatus := Function.update s.deviceStatus d ((s.deviceStatus d).setInactive queue) }

def setPending (queue : EventQueueType) (d : Nat) (value : Bool) : DbM Unit :=
  modifyDevices fun s => { s with deviceStatus := Function.update s.deviceStatus d ((s.deviceStatus d).setPending value queue) }

def setConflict (conflict : Option (EventQueueType × Nat)) : DbM Unit := modifyDevices fun s => { s with conflict := conflict }

def DeviceState.setQueue (s : DeviceState) (queue : EventQueueType) (q : CEventQueue) : DeviceState :=
  { s with queue := Function.update s.queue queue q }

/-- `theEventQueue.AddEvent`. -/
def addEvent (queue : EventQueueType) (theEventKey : Int) (theDeviceIndex : Nat) (theQueuePosition : QueuePosition) : DbM Unit :=
    fun s =>
  match (s.devices.queue queue).addEvent theEventKey theDeviceIndex theQueuePosition with
  | .ok q => .ok ⟨⟩ { s with devices := s.devices.setQueue queue q, calls := s.devices :: s.calls }
  | .error e => .error e { s with calls := s.devices :: s.calls }

/-- `theEventQueue.GetEvent`. -/
def getEvent (queue : EventQueueType) : DbM Nat := fun s =>
  match (s.devices.queue queue).getEvent with
  | .ok (d, q) => .ok d { s with devices := s.devices.setQueue queue q, calls := s.devices :: s.calls }
  | .error e => .error e { s with calls := s.devices :: s.calls }

/-- `theEventQueue.QueueTime`. -/
def queueTime (queue : EventQueueType) : DbM Int := read fun s => (s.devices.queue queue).queueTime (s.devices.queueStart queue)

namespace CPower

/-- A known voltage that is neither active nor ignored. -/
def isIdle (power : CPower) : EventQueueType → Bool
  | .minQueue => power.minVoltage != unknownVoltage && !power.active.minActive && !power.active.minIgnore
  | .maxQueue => power.maxVoltage != unknownVoltage && !power.active.maxActive && !power.active.maxIgnore
  | .simQueue => false

def activate (power : CPower) : EventQueueType → CPower
  | .minQueue => { power with active := { power.active with minActive := true } }
  | .maxQueue => { power with active := { power.active with maxActive := true } }
  | .simQueue => power

theorem voltage_activate (power : CPower) (queue : EventQueueType) :
    (power.activate queue).queueVoltage = power.queueVoltage := by
  funext queue'
  cases queue <;> cases queue' <;> rfl

/-- `IsPriorityPower_`. -/
def isPriority (power : CPower) : Bool := power.type.powerBit || power.type.inputBit || power.type.resistorBit

end CPower

namespace FlatCircuit

variable (c : FlatCircuit)

/-! ## Devices that enter a queue -/

variable (queue : EventQueueType) (theDeviceId : Nat) (theConnections : CConnection) (theDirection : ShortDirection)

/-- `CCvcDb::IsIrrelevant`, up to the check for a conflict. -/
def isIrrelevantNets (theVoltage : Int) (theQueueStatus : QueueStatus) : DbM Bool := do
  let s ← read PropagationState.devices
  onNets (c.isIrrelevantConnection queue theDeviceId theConnections theVoltage theQueueStatus (s.pending queue)
    (s.queue queue).dequeueCount)

variable (theNetId : Nat) (theEventKey : Int)

/-- The key, the place and the calculation of the voltage of a device that enters a queue. With both voltages known the key is not
changed, and the calculation, which is that of an earlier device in the code, does not matter. -/
def enqueueKey : NetM (Int × QueuePosition × CalculationType) :=
  if theConnections.sourceVoltage = unknownVoltage ∨ theConnections.drainVoltage = unknownVoltage then do
    let myDirection : ShortDirection :=
      if theConnections.sourceVoltage = unknownVoltage then .sourceToMasterDrain else .drainToMasterSource
    let power ← powerAt (theConnections.masterPower myDirection)
    let (myEventKey, myQueuePosition) ←
      c.adjustKey queue theDeviceId theConnections theEventKey (defaultQueuePosition power.type.powerBit queue) myDirection
    pure (myEventKey, myQueuePosition, power.calculationType queue)
  else do
    let source ← powerAt theConnections.sourcePower
    let drain ← powerAt theConnections.drainPower
    pure (theEventKey, defaultQueuePosition (source.type.powerBit || drain.type.powerBit) queue, .unknownCalculation)

/-- The keys of the sim queue are resistances. -/
def enqueueTime (myEventKey : Int) : DbM Int :=
  if queue = .simQueue then do
    let time ← queueTime queue
    onNets (simKey time theConnections.resistance)
  else pure myEventKey

/-- The event of a device, and the estimates that go with it. -/
def enqueueEvent (theEventKey myEventKey : Int) (myQueuePosition : QueuePosition) : DbM Unit := do
  let myEventKey ← enqueueTime queue theConnections myEventKey
  addEvent queue myEventKey theDeviceId myQueuePosition
  setPending queue theDeviceId true
  let nets ← read PropagationState.nets
  -- mos diode connections in min/max queues
  when (myQueuePosition == .mosDiode && queue != .simQueue && !nets.isHiz theConnections.gatePower)
    (onNets (c.estimateMosDiode queue theDeviceId theConnections theEventKey myEventKey))

/-- A device that is neither inactive nor pending, in the loop of `EnqueueAttachedDevicesByTerminal`. -/
def enqueueActiveDevice (theDeviceId : Nat) : DbM Unit := do
  let myConnections ← onNets (c.mapDeviceNets queue theDeviceId)
  let irrelevant ← c.isIrrelevantNets queue theDeviceId myConnections theEventKey .enqueue
  if irrelevant then setInactive queue theDeviceId
  -- ignore bias/gate only changes
  else if myConnections.sourceVoltage = unknownVoltage ∧ myConnections.drainVoltage = unknownVoltage then pure ()
  else do
    let (myEventKey, myQueuePosition, myCalculationType) ← onNets (c.enqueueKey queue theDeviceId myConnections theEventKey)
    -- SIM queues/maxNmos/minPmos with unknown mos gate return SKIP_QUEUE; do not propagate opposite calculations
    if myQueuePosition = .skipQueue ∨ myEventKey < theEventKey ∧ myCalculationType = .upCalculation ∨
        myEventKey > theEventKey ∧ myCalculationType = .downCalculation then pure ()
    else c.enqueueEvent queue theDeviceId myConnections theEventKey myEventKey myQueuePosition

/-- One round of the loop of `EnqueueAttachedDevicesByTerminal`. -/
def enqueueDevice (theDeviceId : Nat) : DbM Unit := do
  let s ← read PropagationState.devices
  when (!(s.inactive queue theDeviceId || s.pending queue theDeviceId)) (c.enqueueActiveDevice queue theEventKey theDeviceId)

/-- `CCvcDb::EnqueueAttachedDevicesByTerminal`, with the list of the devices of the net. -/
def enqueueAttachedDevicesByTerminal (devices : List Nat) (theEventKey : Int) : DbM Unit :=
  devices.forM (c.enqueueDevice queue theEventKey)

/-- `CCvcDb::EnqueueAttachedDevices`. -/
def enqueueAttachedDevices : DbM Unit := do
  c.enqueueAttachedDevicesByTerminal queue (c.sources theNetId) theEventKey
  c.enqueueAttachedDevicesByTerminal queue (c.drains theNetId) theEventKey
  c.enqueueAttachedDevicesByTerminal queue (c.gates theNetId) theEventKey

/-- One round of the loop of `EnqueueAttachedResistorsByTerminal`. -/
def enqueueResistor (theQueuePosition : QueuePosition) (theDeviceId : Nat) : DbM Unit := do
  let s ← read PropagationState.devices
  when (c.deviceType theDeviceId == .resistor && !(s.inactive queue theDeviceId || s.pending queue theDeviceId)) do
    addEvent queue theEventKey theDeviceId theQueuePosition
    setPending queue theDeviceId true

/-- `CCvcDb::EnqueueAttachedResistors`. -/
def enqueueAttachedResistors (theQueuePosition : QueuePosition) : DbM Unit := do
  (c.sources theNetId).forM (c.enqueueResistor queue theEventKey theQueuePosition)
  (c.drains theNetId).forM (c.enqueueResistor queue theEventKey theQueuePosition)

/-! ## Devices that are taken from a queue -/

/-- The first `CCvcDb::ShortNets`. -/
def shortNets : DbM Unit := do
  onNets (c.shortNetsLinks queue theDeviceId theConnections theDirection)
  setInactive queue theDeviceId

/-- The second `CCvcDb::ShortNets`. -/
def shortNetsAtVoltage (theShortVoltage : Int) : DbM Unit := do
  onNets (c.shortNetsVoltage queue theDeviceId theConnections theDirection theShortVoltage)
  setInactive queue theDeviceId

/-- `CCvcDb::ShortSimNets`. -/
def shortSimNets (theShortVoltage : Int) : DbM Unit := do
  onNets (c.shortSimNetsLinks theDeviceId theConnections theDirection theShortVoltage)
  setInactive .simQueue theDeviceId

/-- `CCvcDb::AlreadyShorted`. -/
def alreadyShorted : DbM Unit := do
  let s ← read PropagationState.devices
  let returned ← onNets (c.alreadyShortedNets queue theDeviceId theConnections (s.pending queue))
  when (!returned) (setInactive queue theDeviceId)

/-- `VoltageConflict`: an idle power is activated if the voltage on the other side of the device does not go beyond it, and
the devices of its net enter the queue. -/
def activatePower (thePower : Option Nat) (theNetId : Nat) (theVoltage theOtherVoltage : Int) : DbM Unit :=
  let isBeyond := match queue with
    | .minQueue => decide (theOtherVoltage ≤ theVoltage)
    | _ => decide (theVoltage ≤ theOtherVoltage)
  match thePower with
  | some p =>
    when isBeyond do
      onNets (update fun s => s.modifyPower p (·.activate queue) fun power => power.voltage_activate queue)
      c.enqueueAttachedDevices queue theNetId theVoltage
  | none => pure ()

/-- `VoltageConflict`: the power of the drain is activated, or that of the source. -/
def activateVoltages : DbM Unit := do
  let nets ← read PropagationState.nets
  let isIdle (thePower : Option Nat) : Bool := thePower.any fun p => (nets.power p).isIdle queue
  if isIdle theConnections.drainPower then
    c.activatePower queue theConnections.drainPower theConnections.drainId theConnections.drainVoltage
      theConnections.sourceVoltage
  else
    when (isIdle theConnections.sourcePower)
      (c.activatePower queue theConnections.sourcePower theConnections.sourceId theConnections.sourceVoltage
        theConnections.drainVoltage)

/-- `VoltageConflict`: the devices of the gate of a transistor connected as a diode enter the opposite queue, if the gate has no
voltage there and the voltage was not calculated in the direction `stop`. -/
def crossPropagate (queue opposite : EventQueueType) (stop : CalculationType) (theDeviceId myTargetNetId : Nat)
    (mySourceVoltage : Int)
    (mySourcePower : Option Nat) : DbM Unit :=
  if myTargetNetId = unknownNet then pure ()
  else do
    let power ← onNets (powerAt mySourcePower)
    let myConnections ← onNets (c.mapDeviceNets opposite theDeviceId)
    when (power.calculationType queue != stop && myConnections.gateVoltage == unknownVoltage)
      (c.enqueueAttachedDevices opposite myTargetNetId (int16 (mySourceVoltage + c.vth theDeviceId)))

/-- `VoltageConflict`: a transistor connected as a diode with source and drain known. -/
def crossPropagateDiode (queue opposite : EventQueueType) (stop : CalculationType) (theDeviceId : Nat)
    (theConnections : CConnection) :
    DbM Unit :=
  if !(c.deviceType theDeviceId).isMos then pure ()
  else if theConnections.sourceId = theConnections.gateId then
    c.crossPropagate queue opposite stop theDeviceId theConnections.sourceId theConnections.drainVoltage theConnections.drainPower
  else if theConnections.drainId = theConnections.gateId then
    c.crossPropagate queue opposite stop theDeviceId theConnections.drainId theConnections.sourceVoltage
      theConnections.sourcePower
  else pure ()

/-- The part of `VoltageConflict` in which the pending bit of the device is set. -/
def resolveConflict : DbM Unit :=
  match queue with
  | .minQueue => do
    c.activateVoltages .minQueue theConnections
    onNets (unsetChecks .min theConnections)
    c.crossPropagateDiode .minQueue .maxQueue .downCalculation theDeviceId theConnections
  | .maxQueue => do
    c.activateVoltages .maxQueue theConnections
    onNets (unsetChecks .max theConnections)
    c.crossPropagateDiode .maxQueue .minQueue .upCalculation theDeviceId theConnections
  | .simQueue => pure ()

/-- The device is between two voltages that are known, or Hi-Z on the second pass. -/
def isConflict (s : NetState) (queue : EventQueueType) (theDeviceId : Nat) (theConnections : CConnection) : Bool :=
  !(!c.leakVoltageSet && (theConnections.sourceVoltage == unknownVoltage || theConnections.drainVoltage == unknownVoltage)) &&
    !(s.isUnknownSourceVoltage theConnections || s.isUnknownDrainVoltage theConnections) &&
    !(queue == .simQueue && (c.deviceType theDeviceId).isMos && theConnections.gateVoltage == unknownVoltage)

/-- `CCvcDb::VoltageConflict`. -/
def voltageConflict : DbM Bool := do
  let nets ← read PropagationState.nets
  if c.isConflict nets queue theDeviceId theConnections then do
    setConflict (some (queue, theDeviceId))
    setPending queue theDeviceId true
    c.resolveConflict queue theDeviceId theConnections
    setPending queue theDeviceId false
    setConflict none
    c.alreadyShorted queue theDeviceId theConnections
    pure true
  else pure false

/-- `CCvcDb::IsIrrelevant` of a device that was taken from its queue. -/
def isIrrelevant (theVoltage : Int) : DbM Bool := do
  let irrelevant ← c.isIrrelevantNets queue theDeviceId theConnections theVoltage .dequeue
  if irrelevant then pure true else c.voltageConflict queue theDeviceId theConnections

/-! ## Resistors -/

/-- The types of the devices of a net are added to the other net of a resistor, unless the net is terminal. -/
def propagateTypeFrom (theFromNetId theNetId : Nat) : NetM Unit := do
  let s ← read id
  when (!(s.virtualNet queue).isTerminal theFromNetId) (propagateConnectionType queue theFromNetId theNetId)

/-- A resistor passes on a known voltage. -/
def propagateResistor : DbM Unit := do
  c.shortNets queue theDeviceId theConnections theDirection
  let power ← onNets (powerAt (theConnections.masterPower theDirection))
  c.enqueueAttachedResistors queue (theConnections.slaveId theDirection) (theConnections.masterVoltage theDirection)
    (if power.type.powerBit then .mainBack else .delayFront)

/-- `PropagateResistorVoltages` for a device that is not inactive. -/
def propagateResistorDevice (myDeviceId : Nat) : DbM Unit := do
  let myConnections ← onNets (c.mapDeviceNets queue myDeviceId)
  let nets ← read PropagationState.nets
  if nets.isUnknownSourceVoltage myConnections then do
    onNets (ensure (myConnections.drainVoltage != unknownVoltage) (.assertion "myConnections.drainVoltage != UNKNOWN_VOLTAGE"))
    c.propagateResistor queue myDeviceId myConnections .sourceToMasterDrain
  else if nets.isUnknownDrainVoltage myConnections then
    c.propagateResistor queue myDeviceId myConnections .drainToMasterSource
  else do
    c.alreadyShorted queue myDeviceId myConnections
    onNets (propagateTypeFrom queue myConnections.drainId myConnections.sourceId)
    onNets (propagateTypeFrom queue myConnections.sourceId myConnections.drainId)

/-- `CCvcDb::PropagateResistorVoltages`. -/
def propagateResistorVoltages : DbM Unit := do
  let myDeviceId ← getEvent queue
  setPending queue myDeviceId false
  let s ← read PropagationState.devices
  when (!s.inactive queue myDeviceId) (c.propagateResistorDevice queue myDeviceId)

/-! ## Min and max voltages -/

/-- Which net of a device gets a voltage from the other one; none if both voltages are unknown. If both are known, the lower min
voltage and the higher max voltage are passed on. -/
def minMaxDirection : Option ShortDirection :=
  if theConnections.sourceVoltage ≠ unknownVoltage then
    if theConnections.drainVoltage ≠ unknownVoltage then
      match queue with
      | .minQueue =>
        some (if theConnections.sourceVoltage ≤ theConnections.drainVoltage then .drainToMasterSource else .sourceToMasterDrain)
      | _ => some (if theConnections.sourceVoltage ≥ theConnections.drainVoltage then .drainToMasterSource
          else .sourceToMasterDrain)
    else some .drainToMasterSource
  else if theConnections.drainVoltage ≠ unknownVoltage then some .sourceToMasterDrain
  else none

/-- The resistors of `CDeviceCount` at a net: those at their source, and those at their drain with another source. -/
def resistorCount : Nat :=
  (c.sources theNetId).countP (fun d => c.deviceType d == .resistor) +
    (c.drains theNetId).countP fun d =>
      c.equivalentNet (c.sourceNet d) != c.equivalentNet (c.drainNet d) && c.deviceType d == .resistor

/-- `activeNmosCount` or `activePmosCount` of `CDeviceCount` at a net: the transistors that are not connected as diodes. -/
def activeMosCount (isMos : ModelType → Bool) (theNetId : Nat) : Nat :=
  (c.sources theNetId).countP (fun d =>
      isMos (c.deviceType d) && c.equivalentNet (c.gateNet d) != c.equivalentNet (c.drainNet d)) +
    (c.drains theNetId).countP fun d =>
      c.equivalentNet (c.sourceNet d) != c.equivalentNet (c.drainNet d) && isMos (c.deviceType d) &&
        c.equivalentNet (c.gateNet d) != c.equivalentNet (c.sourceNet d)

/-- One resistor connected to no PMOS, in the min queue, or to no NMOS, in the max queue. -/
def isOnlyResistor : Bool :=
  c.resistorCount theNetId == 1 &&
    match queue with
    | .minQueue => c.activeMosCount ModelType.isPmos theNetId == 0
    | .maxQueue => c.activeMosCount ModelType.isNmos theNetId == 0
    | .simQueue => false

/-- A device passes on a voltage, and the devices behind it enter the queue. -/
def propagateShort (myDeviceId : Nat) (theConnections : CConnection) (myDirection : ShortDirection)
    (myEventKey : Int) : DbM Unit := do
  c.shortNetsAtVoltage queue myDeviceId theConnections myDirection myEventKey
  onNets (c.addCheck queue myDeviceId (theConnections.masterVoltage myDirection) myEventKey (theConnections.slaveId myDirection)
    (theConnections.masterId myDirection))
  c.enqueueAttachedDevices queue (theConnections.slaveId myDirection) myEventKey
  -- resistors propagating unchanged voltages
  when (c.deviceType myDeviceId == .resistor && theConnections.masterVoltage myDirection == myEventKey &&
      c.isOnlyResistor queue (theConnections.slaveId myDirection)) do
    c.shortNetsAtVoltage queue myDeviceId theConnections myDirection myEventKey
    c.enqueueAttachedDevices queue (theConnections.slaveId myDirection) myEventKey

/-- A device with one known voltage: it goes back to the queue if its key is later than the one it was taken under. -/
def propagateOrRequeue (myDeviceId : Nat) (theConnections : CConnection) (myDirection : ShortDirection)
    (myQueuePosition : QueuePosition) (myQueueKey : Int) : DbM Unit := do
  onNets (ensure (myDirection != .drainToMasterSource || theConnections.drainVoltage == unknownVoltage)
    (.assertion "myConnections.drainVoltage == UNKNOWN_VOLTAGE"))
  let (myEventKey, myQueuePosition) ←
    onNets (c.adjustKey queue myDeviceId theConnections (theConnections.masterVoltage myDirection) myQueuePosition myDirection)
  if myQueuePosition = .skipQueue then pure ()
  else if queue.later myEventKey myQueueKey then do
    addEvent queue myEventKey myDeviceId myQueuePosition
    setPending queue myDeviceId true
  else c.propagateShort queue myDeviceId theConnections myDirection myEventKey

/-- `PropagateMinMaxVoltages` for a device that is not inactive. -/
def propagateMinMaxDevice (myDeviceId : Nat) (myQueueKey : Int) : DbM Unit := do
  let myConnections ← onNets (c.mapDeviceNets queue myDeviceId)
  match minMaxDirection queue myConnections with
  | none => pure ()
  | some myDirection => do
    let power ← onNets (powerAt (myConnections.masterPower myDirection))
    let irrelevant ← c.isIrrelevant queue myDeviceId myConnections (myConnections.masterVoltage myDirection)
    if irrelevant then setInactive queue myDeviceId
    else
      c.propagateOrRequeue queue myDeviceId myConnections myDirection (defaultQueuePosition power.type.powerBit queue) myQueueKey

/-- `CCvcDb::PropagateMinMaxVoltages`. -/
def propagateMinMaxVoltages : DbM Unit := do
  let myQueueKey ← queueTime queue
  let myDeviceId ← getEvent queue
  setPending queue myDeviceId false
  let s ← read PropagationState.devices
  when (!s.inactive queue myDeviceId) (c.propagateMinMaxDevice queue myDeviceId myQueueKey)

/-! ## Sim voltages -/

/-- Which net of a device gets a voltage from the other one in the simulation; none if the device is left alone. -/
def simDirection (s : NetState) (theDeviceId : Nat) (theConnections : CConnection) : Option ShortDirection :=
  let source := theConnections.sourceVoltage
  let drain := theConnections.drainVoltage
  let type := c.deviceType theDeviceId
  if s.isUnknownSourceVoltage theConnections then
    if s.isUnknownDrainVoltage theConnections then none
    -- don't propagate non-SCRC Hi-Z power
    else if s.isHiz theConnections.drainPower && !s.isSCRCPower theConnections.drainPower then none
    else some .sourceToMasterDrain
  else if s.isUnknownDrainVoltage theConnections then
    if s.isHiz theConnections.sourcePower && !s.isSCRCPower theConnections.sourcePower then none
    else some .drainToMasterSource
  else if source = unknownVoltage ∧ drain = unknownVoltage then some .drainToMasterSource
  else if source = unknownVoltage then some .sourceToMasterDrain
  else if drain = unknownVoltage then some .drainToMasterSource
  else if type.isPmos && decide (drain ≥ source) || type.isNmos && decide (drain ≤ source) then some .sourceToMasterDrain
  else some .drainToMasterSource

/-- The gate voltage of a transistor in the simulation; none if the device is left alone. -/
def simGateVoltage (mySimVoltage : Int) (myDirection : ShortDirection) (thePropagationType : Propagation) : NetM (Option Int) :=
  let type := c.deviceType theDeviceId
  let vth := c.vth theDeviceId
  if !type.isMos then pure (some theConnections.gateVoltage)
  else if theConnections.gateVoltage ≠ unknownVoltage then
    if thePropagationType = .powerNetsOnly then do
      let power ← powerAt theConnections.gatePower
      pure (if power.isPriority then some theConnections.gateVoltage else none)
    else pure (some theConnections.gateVoltage)
  else do
    -- check always on devices
    let myMaxGateVoltage ← c.maxVoltage theConnections.masterGateNet.finalNetId
    let myMinGateVoltage ← c.minVoltage theConnections.masterGateNet.finalNetId
    if type.isPmos && myMaxGateVoltage != unknownVoltage && mySimVoltage != unknownVoltage &&
        decide (myMaxGateVoltage < mySimVoltage + vth) then do
      let alwaysOn ← c.isAlwaysOnCandidate theDeviceId myDirection
      pure (if alwaysOn then some myMaxGateVoltage else none)
    else if type.isNmos && myMinGateVoltage != unknownVoltage && mySimVoltage != unknownVoltage &&
        decide (myMinGateVoltage > mySimVoltage + vth) then do
      let alwaysOn ← c.isAlwaysOnCandidate theDeviceId myDirection
      pure (if alwaysOn then some myMinGateVoltage else none)
    else
      pure (if thePropagationType = .powerNetsOnly ∨
        theConnections.gateId ≠ theConnections.sourceId ∧ theConnections.gateId ≠ theConnections.drainId then none
        else some theConnections.gateVoltage)

/-- A device passes on a sim voltage, and the devices behind it enter the queue. -/
def propagateSimShort (myDeviceId : Nat) (theConnections : CConnection) (myDirection : ShortDirection)
    (thePropagationType : Propagation) :
    DbM Unit := do
  let (mySimVoltage, adjusted) ←
    onNets (c.adjustSimVoltage myDeviceId theConnections (theConnections.masterVoltage myDirection) myDirection)
  -- skip adjusted sim voltages with fixed-only; gate input = Vth (non mos diode)
  if thePropagationType = .powerNetsOnly ∧ adjusted ∨ mySimVoltage = unknownVoltage then pure ()
  else do
    c.shortSimNets myDeviceId theConnections myDirection mySimVoltage
    c.enqueueAttachedDevices .simQueue (theConnections.slaveId myDirection) mySimVoltage

/-- The last part of `PropagateSimVoltages`. -/
def propagateSimConnection (myDeviceId : Nat) (theConnections : CConnection) (myDirection : ShortDirection)
    (thePropagationType : Propagation) : DbM Unit :=
  if c.deviceType myDeviceId = .fuseOn ∧ thePropagationType ≠ .allNetsAndFuse then pure ()
  else if c.deviceType myDeviceId = .fuseOff then setInactive .simQueue myDeviceId
  else do
    let irrelevant ← c.isIrrelevant .simQueue myDeviceId theConnections (theConnections.masterVoltage myDirection)
    if irrelevant then setInactive .simQueue myDeviceId
    else c.propagateSimShort myDeviceId theConnections myDirection thePropagationType

/-- On the pass over the power nets only priority powers are propagated. -/
def isSimSource (thePower : Option Nat) (thePropagationType : Propagation) : NetM Bool :=
  if thePropagationType = .powerNetsOnly then do
    let power ← powerAt thePower
    pure power.isPriority
  else pure true

/-- `PropagateSimVoltages` for a device that is not inactive. -/
def propagateSimDevice (myDeviceId : Nat) (thePropagationType : Propagation) : DbM Unit := do
  let myConnections ← onNets (c.mapDeviceNets .simQueue myDeviceId)
  let nets ← read PropagationState.nets
  match c.simDirection nets myDeviceId myConnections with
  | none => pure ()
  | some myDirection => do
    let isSource ← onNets (isSimSource (myConnections.masterPower myDirection) thePropagationType)
    if isSource then do
      let gateVoltage ←
        onNets (c.simGateVoltage myDeviceId myConnections (myConnections.masterVoltage myDirection) myDirection
          thePropagationType)
      match gateVoltage with
      | none => pure ()
      | some gateVoltage =>
        c.propagateSimConnection myDeviceId { myConnections with gateVoltage := gateVoltage } myDirection thePropagationType
    else pure ()

/-- `CCvcDb::PropagateSimVoltages`. -/
def propagateSimVoltages (thePropagationType : Propagation) : DbM Unit := do
  let myDeviceId ← getEvent .simQueue
  setPending .simQueue myDeviceId false
  let s ← read PropagationState.devices
  when (!s.inactive .simQueue myDeviceId) (c.propagateSimDevice myDeviceId thePropagationType)

end FlatCircuit
end Cvc
