import Cvc.Propagation

/-!
# The passes over the circuit

The functions of `CCvcDb.cc` that run a propagation to its end: `SetResistorVoltagesByPower` up to the calculation of the
voltages, `SetInitialMinMaxPower` with what it does before and after its loop, `ResetMinMaxPower`, which calls it, and
`SetSimPower`.

A loop that runs until its queues are empty is followed for a number of rounds, and fails as `endless` when these are used up. A
recursion that comes back to a net it started from does not end, which is undefined; so is the use of a list of a queue that is
empty. The devices that `SetInitialMinMaxPower` ignores at its end are left out: its nets do not depend on them.
-/

namespace Cvc

open Program

/-- `virtualNet_v.Set` at a given time. -/
def setLinkAt (queue : EventQueueType) (theNetId theNextNet theResistance : Nat) (theTime : Int) : NetM Unit := fun s =>
  match (s.virtualNet queue).set theNetId theNextNet theResistance theTime with
  | some v => .ok ⟨⟩ (s.setVirtualNet queue v)
  | none => .error .walk s

/-- `queueStart = true` of some queues. -/
def startQueues (queues : List EventQueueType) : DbM Unit :=
  modifyDevices fun s => { s with queueStart := fun queue => queues.contains queue || s.queueStart queue }

/-- `minEventQueue.QueueSize() + maxEventQueue.QueueSize()`, a sum of two `deviceId_t`. -/
def DeviceState.minMaxSize (s : DeviceState) : Nat := uint32 ((s.queue .minQueue).size + (s.queue .maxQueue).size)

namespace FlatCircuit

variable (c : FlatCircuit)

/-! ## Resistors -/

/-- The resistors of a power enter the queues. -/
def enqueuePowerResistors (thePower : Nat) : DbM Unit := do
  let nets ← read PropagationState.nets
  let power := nets.power thePower
  when (power.minVoltage != unknownVoltage)
    (c.enqueueAttachedResistors .minQueue power.netId power.minVoltage (defaultQueuePosition power.type.powerBit .minQueue))
  when (power.maxVoltage != unknownVoltage)
    (c.enqueueAttachedResistors .maxQueue power.netId power.maxVoltage (defaultQueuePosition power.type.powerBit .maxQueue))

/-- One round of the loop of `SetResistorVoltagesByPower`. -/
def resistorRound : DbM Unit := do
  let s ← read PropagationState.devices
  c.propagateResistorVoltages (if (s.queue .minQueue).size > (s.queue .maxQueue).size then .minQueue else .maxQueue)

/-- `CCvcDb::SetResistorVoltagesByPower`, up to `CalculateResistorVoltages`. -/
def setResistorVoltagesByPower (rounds : Nat) : DbM Unit := do
  let nets ← read PropagationState.nets
  nets.cvcPowerPtrList.forM c.enqueuePowerResistors
  startQueues [.minQueue, .maxQueue]
  repeatWhile .endless (fun s => s.devices.minMaxSize != 0) c.resistorRound rounds

/-! ## Inverters between two powers -/

/-- The transistor of `SetTrivialMinMaxPower` at a net: the last one of the type that is not tied to its other net, or else the
first one. -/
def trivialMos (isMos : ModelType → Bool) (theNetId : Nat) : Option Nat :=
  let choose (otherNet : Nat → Nat) (found : Option Nat) (device : Nat) : Option Nat :=
    -- skip mos capacitors; only use tied input if nothing else is available
    if c.sourceNet device ≠ c.drainNet device ∧ isMos (c.deviceType device) ∧
      (found = none ∨ otherNet device ≠ c.gateNet device) then
      some device
    else found
  (c.sources theNetId).foldl (choose c.drainNet) ((c.drains theNetId).foldl (choose c.sourceNet) none)

/-- The net on the other side of a device. -/
def otherNet (theConnections : CConnection) (theNetId : Nat) : Option Nat :=
  if theConnections.sourceId = theNetId then some theConnections.drainId
  else if theConnections.drainId = theNetId then some theConnections.sourceId
  else none

/-- The two nets are powers with fixed voltages in increasing order. -/
def isTrivialPower (s : NetState) (myGroundNet myPowerNet : Nat) : Bool :=
  match s.netVoltagePtr myGroundNet, s.netVoltagePtr myPowerNet with
  | some ground, some power =>
    (s.power ground).type.powerBit && (s.power power).type.powerBit &&
      (s.power ground).minVoltage == (s.power ground).maxVoltage && (s.power power).minVoltage == (s.power power).maxVoltage &&
      (s.power power).maxVoltage != unknownVoltage && decide ((s.power ground).minVoltage < (s.power power).maxVoltage)
  | _, _ => false

/-- The net is the output of two transistors of different types and has no voltage yet. -/
def isTrivialCandidate (s : NetState) (theNetId : Nat) : Bool :=
  theNetId == c.getEquivalentNet s theNetId && (s.virtualNet .minQueue).isTerminal theNetId &&
    (s.virtualNet .maxQueue).isTerminal theNetId &&
    -- the code compares the min voltage twice
    (s.netVoltagePtr theNetId).all (fun p => (s.power p).minVoltage == unknownVoltage) &&
    (s.connectionCount theNetId).sourceDrainCount == 2 && (s.connectionCount theNetId).sourceDrainType .nmos &&
    (s.connectionCount theNetId).sourceDrainType .pmos

/-- The links of an inverter whose transistors are known. -/
def linkTrivialNet (theNetId myNmos myPmos : Nat) : NetM Bool := do
  let nmos ← c.mapDeviceNets .minQueue myNmos
  match otherNet nmos theNetId with
  | none => pure false
  | some myGroundNet =>
    -- mos diodes are not trivial
    if nmos.gateId = theNetId then pure false
    else do
      let pmos ← c.mapDeviceNets .maxQueue myPmos
      match otherNet pmos theNetId with
      | none => pure false
      | some myPowerNet => do
        let s ← read id
        if pmos.gateId = theNetId ∨ nmos.gateId ≠ pmos.gateId ∨ isTrivialPower s myGroundNet myPowerNet = false then pure false
        else do
          setLinkAt .minQueue theNetId myGroundNet nmos.resistance 0
          setLinkAt .maxQueue theNetId myPowerNet pmos.resistance 0
          pure true

/-- One round of the loop of `SetTrivialMinMaxPower`. `inverterNet_v` is left out, as no propagation reads it. -/
def setTrivialNet (theNetId : Nat) : DbM Unit := do
  let s ← read id
  if c.isTrivialCandidate s.nets theNetId then
    match c.trivialMos ModelType.isNmos theNetId, c.trivialMos ModelType.isPmos theNetId with
    | some myNmos, some myPmos =>
      if s.devices.inactive .minQueue myNmos || s.devices.inactive .maxQueue myPmos then pure ()
      else do
        let trivial ← onNets (c.linkTrivialNet theNetId myNmos myPmos)
        when trivial do
          setInactive .minQueue myNmos
          setInactive .maxQueue myNmos
          setInactive .minQueue myPmos
          setInactive .maxQueue myPmos
    | _, _ => pure ()
  else pure ()

/-- `CCvcDb::SetTrivialMinMaxPower`. -/
def setTrivialMinMaxPower : DbM Unit := (List.range c.netCount).forM c.setTrivialNet

end FlatCircuit

/-! ## The start of the min/max propagation -/

namespace CPower

/-- The active bits of `ResetMinMaxActiveStatus`: inputs, powers, and powers with a sim voltage that was not calculated. -/
def resetActive (power : CPower) : CPower :=
  let isActive := power.type.inputBit || power.type.powerBit ||
    !(power.simVoltage == unknownVoltage || power.type.simCalculatedBit)
  { power with active := { power.active with
      minActive := isActive && power.minVoltage != unknownVoltage && !power.active.minIgnore
      maxActive := isActive && power.maxVoltage != unknownVoltage && !power.active.maxIgnore } }

theorem voltage_resetActive (power : CPower) : power.resetActive.queueVoltage = power.queueVoltage := by
  funext queue
  cases queue <;> rfl

def isActive (power : CPower) : EventQueueType → Bool
  | .minQueue => power.active.minActive
  | .maxQueue => power.active.maxActive
  | .simQueue => true

/-- `IsCalculatedVoltage_`. -/
def isCalculated (power : CPower) : Bool :=
  power.type.minCalculatedBit || power.type.simCalculatedBit || power.type.maxCalculatedBit

end CPower

/-- `CCvcDb::ResetMinMaxActiveStatus`. -/
def resetMinMaxActiveStatus : NetM Unit := do
  let s ← read id
  s.cvcPowerPtrList.forM fun p => update fun s => s.modifyPower p CPower.resetActive CPower.voltage_resetActive

namespace FlatCircuit

variable (c : FlatCircuit)

/-- The devices of a net enter a queue if the voltage at the end of its virtual nets is active. -/
def enqueueActiveNet (queue : EventQueueType) (theNetId theFinalNetId : Nat) : DbM Unit := do
  let nets ← read PropagationState.nets
  match nets.netVoltagePtr theFinalNetId with
  | none => pure ()
  | some p =>
    let power := nets.power p
    let myVoltage := if c.isFixedSimNet && power.simVoltage != unknownVoltage then power.simVoltage else power.queueVoltage queue
    when (power.isActive queue && myVoltage != unknownVoltage) do
      c.enqueueAttachedDevicesByTerminal queue (c.sources theNetId) myVoltage
      c.enqueueAttachedDevicesByTerminal queue (c.drains theNetId) myVoltage

/-- One round of the first loop of `SetInitialMinMaxPower`. -/
def enqueueNet (theNetId : Nat) : DbM Unit := do
  let nets ← read PropagationState.nets
  -- skip subordinate nets
  when (theNetId == c.getEquivalentNet nets theNetId) do
    let myMinMasterNet ← onNets (virtualNetAt .minQueue theNetId)
    let myMaxMasterNet ← onNets (virtualNetAt .maxQueue theNetId)
    c.enqueueActiveNet .minQueue theNetId myMinMasterNet.finalNetId
    c.enqueueActiveNet .maxQueue theNetId myMaxMasterNet.finalNetId

/-- What `SetInitialMinMaxPower` does before its main loop. -/
def enqueueMinMax : DbM Unit := do
  onNets (update fun s => { s with minConnectionDependencyMap := [], maxConnectionDependencyMap := [] })
  onNets resetMinMaxActiveStatus
  c.setTrivialMinMaxPower
  (List.range c.netCount).forM c.enqueueNet
  startQueues [.minQueue, .maxQueue]

end FlatCircuit

/-! ## The main loop -/

/-- `eventListSize` of the list that the next event is taken from. -/
def CEventQueue.nextListSize (q : CEventQueue) : Option Nat :=
  ((if q.isNextMainQueue then q.mainQueue else q.delayQueue).head?).map fun entry => entry.2.eventListSize

/-- The local variables of the main loop of `SetInitialMinMaxPower`. -/
structure MinMaxLoop where
  myLoopCount : Nat
  myDequeueCount : Nat := 0
  myProcessingMinQueue : Bool := false

/-- Whether the min queue comes next: main queues first, then by size. -/
def DeviceState.isMinNext (s : DeviceState) : Bool :=
  let minQueue := s.queue .minQueue
  let maxQueue := s.queue .maxQueue
  minQueue.isNextMainQueue == maxQueue.isNextMainQueue && decide (minQueue.size > maxQueue.size) ||
    minQueue.isNextMainQueue && !maxQueue.isNextMainQueue

/-- The queue of the rounds that are left of the last choice. -/
def MinMaxLoop.processed (l : MinMaxLoop) : EventQueueType := if l.myProcessingMinQueue then .minQueue else .maxQueue

/-- The queue of the next rounds is chosen when those of the last choice are done. -/
def chooseQueue (l : MinMaxLoop) : DbM MinMaxLoop := do
  let s ← read PropagationState.devices
  if l.myDequeueCount = 0 then
    match (s.queue (if s.isMinNext then .minQueue else .maxQueue)).nextListSize with
    | some size => pure { l with myDequeueCount := size, myProcessingMinQueue := s.isMinNext }
    | none => fail .undefined
  else pure l

/-- One round of the main loop of `SetInitialMinMaxPower`, with what it calls to process an event. -/
def minMaxRound (process : EventQueueType → DbM Unit) (l : MinMaxLoop) : DbM MinMaxLoop := do
  let l ← chooseQueue l
  ensure (l.myDequeueCount != 0) (.assertionFailed "myDequeueCount")
  process l.processed
  read fun s => { l with
    myDequeueCount := l.myDequeueCount - 1
    myLoopCount := if l.myLoopCount - 1 < 1 then s.devices.minMaxSize else l.myLoopCount - 1 }

/-- The main loop of `SetInitialMinMaxPower`. -/
def minMaxLoop (process : EventQueueType → DbM Unit) : Nat → MinMaxLoop → DbM Unit
  | rounds, l =>
    if l.myLoopCount = 0 then pure ()
    else
      match rounds with
      | 0 => fail .endless
      | rounds + 1 => do
        let l ← minMaxRound process l
        minMaxLoop process rounds l

namespace FlatCircuit

variable (c : FlatCircuit)

/-- The main loop, from the sizes of the queues. -/
def propagateMinMax (rounds : Nat) : DbM Unit := do
  let s ← read PropagationState.devices
  minMaxLoop c.propagateMinMaxVoltages rounds { myLoopCount := s.minMaxSize }

/-! ## After the main loop -/

/-- `CCvcDb::CheckEstimateDependency`, along at most `levels` lists: every net of the list still needs a connection, and so do the
nets that depend on it. There are no more lists than nets in the map, so a recursion that needs more levels does not end. -/
def checkEstimateDependency (needs : Nat → Bool) (theDependencyMap : List (Nat × List Nat)) : Nat → List Nat → Option Bool
  | levels, theDependencyList =>
    theDependencyList.foldr (fun net rest =>
      if !needs net then some false
      else
        match theDependencyMap.lookup net, levels with
        | none, _ => rest
        | some _, 0 => none
        | some nets, levels + 1 =>
          match checkEstimateDependency needs theDependencyMap levels nets with
          | some true => rest
          | result => result) (some true)

/-- One of the two loops of `CheckEstimateDependencies`. -/
def checkDependencies (needs : NetFlags → Bool) (setNeeds : Bool → NetFlags → NetFlags)
    (theDependencyMap : List (Nat × List Nat)) :
    NetM Unit :=
  (c.walkOrder (theDependencyMap.map Prod.fst)).forM fun net => do
    let s ← read id
    if needs (s.netStatus net) then
      match checkEstimateDependency (fun n => needs (s.netStatus n)) theDependencyMap theDependencyMap.length
          ((theDependencyMap.lookup net).getD []) with
      | some result => modifyNetStatus net (setNeeds result)
      | none => fail .undefined
    else pure ()

/-- `CCvcDb::CheckEstimateDependencies`. -/
def checkEstimateDependencies : NetM Unit := do
  let s ← read id
  c.checkDependencies NetFlags.needsMinConnection (fun value status => { status with needsMinConnection := value })
    s.minConnectionDependencyMap
  c.checkDependencies NetFlags.needsMaxConnection (fun value status => { status with needsMaxConnection := value })
    s.maxConnectionDependencyMap

variable (theNetId : Nat) (myMinVoltage myMaxVoltage : Int)

/-- `RemoveInvalidPower`: a min check is done if the max voltage is above the min voltage. -/
def finishMinCheck : NetM Unit := do
  let status ← read fun s => s.netStatus theNetId
  if status.needsMinCheck && !status.needsMaxCheck then do
    let floating ← c.isDerivedFromFloating .minQueue theNetId
    if floating then pure ()
    else do
      let myMinCheckVoltage ← if myMinVoltage = unknownVoltage then c.minLeakVoltage theNetId else pure myMinVoltage
      -- intentionally not parallel with the following check. only need to check high value for unknown.
      when (myMaxVoltage != unknownVoltage && decide (myMinCheckVoltage < myMaxVoltage))
        (modifyNetStatus theNetId fun status => { status with needsMinCheck := false })
  else pure ()

/-- `RemoveInvalidPower`: a max check is done if the max voltage is above the min voltage. -/
def finishMaxCheck : NetM Unit := do
  let status ← read fun s => s.netStatus theNetId
  if status.needsMaxCheck && !status.needsMinCheck then do
    let floating ← c.isDerivedFromFloating .maxQueue theNetId
    if floating then pure ()
    else do
      let myMaxCheckVoltage ← if myMaxVoltage = unknownVoltage then c.maxLeakVoltage theNetId else pure myMaxVoltage
      when (myMaxCheckVoltage != unknownVoltage && decide (myMaxCheckVoltage > myMinVoltage))
        (modifyNetStatus theNetId fun status => { status with needsMaxCheck := false })
  else pure ()

/-- `RemoveInvalidPower`: both voltages are calculated values in the right order. -/
def finishBothChecks : NetM Unit := do
  let status ← read fun s => s.netStatus theNetId
  when (myMinVoltage != unknownVoltage && myMaxVoltage != unknownVoltage && decide (myMinVoltage ≤ myMaxVoltage) &&
      status.needsMinCheck && status.needsMaxCheck)
    (modifyNetStatus theNetId fun status => { status with needsMinCheck := false, needsMaxCheck := false })

/-- A voltage of the power of a net is replaced by that of the power of another net. -/
def restoreVoltage (queue : EventQueueType) : NetM Unit := fun s =>
  match s.netVoltagePtr theNetId with
  | none => .error .undefined s
  | some p =>
    match s.netVoltagePtr ((s.power p).defaultNet queue.calculatedBit) with
    | none => .error .undefined s
    | some default =>
      match queue with
      | .minQueue =>
        .ok ⟨⟩ (s.setPower p { s.power p with minVoltage := (s.power default).minVoltage }
          (CPower.isVoltage_of (s.isVoltage default .minQueue) (s.isVoltage p .simQueue) (s.isVoltage p .maxQueue)))
      | .maxQueue =>
        .ok ⟨⟩ (s.setPower p { s.power p with maxVoltage := (s.power default).maxVoltage }
          (CPower.isVoltage_of (s.isVoltage p .minQueue) (s.isVoltage p .simQueue) (s.isVoltage default .maxQueue)))
      | .simQueue => .ok ⟨⟩ s

/-- `RemoveInvalidPower` of a power that is not calculated: a voltage that was not confirmed is replaced by its default. -/
def restoreDefaults : NetM Unit := do
  let status ← read fun s => s.netStatus theNetId
  when (status.needsMinCheck || status.needsMaxConnection) do
    restoreVoltage theNetId .maxQueue
    modifyNetStatus theNetId fun status => { status with needsMinCheck := false, needsMaxConnection := false }
  when (status.needsMaxCheck || status.needsMinConnection) do
    restoreVoltage theNetId .minQueue
    modifyNetStatus theNetId fun status => { status with needsMaxCheck := false, needsMinConnection := false }

/-- First pass leak voltages mean current calculated voltages are ok. -/
def isWithinLeak : NetM Bool := do
  let s ← read id
  if c.leakVoltageSet && (s.leakVoltagePtr theNetId).isSome then do
    let myMaxLeakVoltage ← c.maxLeakVoltage theNetId
    let myMinLeakVoltage ← c.minLeakVoltage theNetId
    pure (myMaxLeakVoltage != unknownVoltage && myMinVoltage != unknownVoltage && myMaxVoltage != unknownVoltage &&
      decide (myMinVoltage ≤ myMaxVoltage) && decide (myMaxVoltage ≤ myMaxLeakVoltage) &&
        decide (myMinVoltage ≥ myMinLeakVoltage))
  else pure false

/-- `DEFAULT_UNKNOWN_RESISTANCE`. -/
def defaultUnknownResistance : Nat := 1100100

/-- A net whose power was deleted is linked to the net the voltage was calculated from, unless it has a voltage by its links. -/
def relinkToDefault (queue : EventQueueType) (theNetId theDefaultNet : Nat) (theVoltage : Int) : NetM Unit :=
  when (theVoltage == unknownVoltage && theDefaultNet != unknownNet)
    (setLink queue theNetId theDefaultNet defaultUnknownResistance)

/-- The power of a net is deleted, and the net linked to the default nets of its voltages. -/
def deletePower (power : CPower) : NetM Unit := do
  update fun s => { s with netVoltagePtr := Function.update s.netVoltagePtr theNetId none }
  let myMaxVoltage ← c.maxVoltage theNetId
  let myMinVoltage ← c.minVoltage theNetId
  relinkToDefault .minQueue theNetId power.defaultMinNet myMinVoltage
  relinkToDefault .maxQueue theNetId power.defaultMaxNet myMaxVoltage

/-- `RemoveInvalidPower` of a calculated power. -/
def removeCalculatedPower (power : CPower) (myMinVoltage myMaxVoltage : Int) : NetM Unit := do
  let status ← read fun s => s.netStatus theNetId
  if myMinVoltage = unknownVoltage ∨ myMaxVoltage = unknownVoltage ∨ myMinVoltage > myMaxVoltage ∨ status ≠ {} then do
    modifyNetStatus theNetId fun _ => {}
    let valid ← c.isWithinLeak theNetId myMinVoltage myMaxVoltage
    when (!valid) (c.deletePower theNetId power)
  else pure ()

/-- `RemoveInvalidPower` of a net, after the nets its voltages come from. -/
def removeNetPower : NetM Unit := do
  let myMaxVoltage ← c.maxVoltage theNetId true
  let myMinVoltage ← c.minVoltage theNetId true
  c.finishMinCheck theNetId myMinVoltage myMaxVoltage
  c.finishMaxCheck theNetId myMinVoltage myMaxVoltage
  finishBothChecks theNetId myMinVoltage myMaxVoltage
  let thePower ← read fun s => s.netVoltagePtr theNetId
  let power ← powerAt thePower
  if power.isCalculated then c.removeCalculatedPower theNetId power myMinVoltage myMaxVoltage else restoreDefaults theNetId

/-- `CCvcDb::RemoveInvalidPower`. The nets of the calls in it are larger than its own. -/
def removeInvalidPower : Nat → Nat → NetM Unit
  | levels, theNetId => do
    let s ← read id
    if theNetId = unknownNet ∨ s.netVoltagePtr theNetId = none then pure ()
    else
      match levels with
      | 0 => fail .undefined
      | levels + 1 => do
        let minFinal ← read fun s => ((s.virtualNet .minQueue).net theNetId).finalNetId
        when (decide (minFinal > theNetId)) (removeInvalidPower levels minFinal)
        let maxFinal ← read fun s => ((s.virtualNet .maxQueue).net theNetId).finalNetId
        when (decide (maxFinal > theNetId)) (removeInvalidPower levels maxFinal)
        c.removeNetPower theNetId

/-- The removal of invalid powers of `SetInitialMinMaxPower`. -/
def removeInvalidPowers : NetM Unit := (List.range c.netCount).forM (c.removeInvalidPower c.netCount)

/-- The last loop over the nets of `SetInitialMinMaxPower`: "recalculate final values". -/
def refreshNets : NetM Unit :=
  (List.range c.netCount).forM fun net => do
    let _ ← virtualNetAt .minQueue net
    let _ ← virtualNetAt .maxQueue net
    pure ()

/-- `CCvcDb::SetInitialMinMaxPower`. -/
def setInitialMinMaxPower (rounds : Nat) : DbM Unit := do
  c.enqueueMinMax
  c.propagateMinMax rounds
  onNets c.checkEstimateDependencies
  onNets c.removeInvalidPowers
  onNets c.refreshNets

end FlatCircuit

/-! ## The reset before it -/

namespace CVirtualNetVector

/-- `InitializeUpdateArray`: a cleared array is filled with zeros. -/
def initializeUpdateArray (v : CVirtualNetVector) : CVirtualNetVector :=
  { v with lastUpdateSize := v.size, lastUpdateV := fun n => if n < v.lastUpdateSize then v.lastUpdateV n else 0 }

/-- `ClearUpdateArray`. -/
def clearUpdateArray (v : CVirtualNetVector) : CVirtualNetVector := { v with lastUpdateSize := 0 }

/-- `CVirtualNet::Copy`, to the entry of a net. -/
def copyNet (v : CVirtualNetVector) (theNetId : Nat) (theBase : CVirtualNet) : CVirtualNetVector :=
  { v with net := Function.update v.net theNetId theBase }

end CVirtualNetVector

/-- A device is as active in the min and the max queue as in the sim queue. -/
def DeviceStatus.resetInactive (status : DeviceStatus) : DeviceStatus :=
  { status with minInactive := status.simInactive, maxInactive := status.simInactive }

/-- `ResetQueue` of a queue, with the time of its vector of virtual nets. -/
def resetEventQueue (deviceCount : Nat) (queue : EventQueueType) : DbM Unit := do
  modifyDevices fun s => { s with
    queue := Function.update s.queue queue ((s.queue queue).resetQueue deviceCount)
    queueStart := Function.update s.queueStart queue false }
  onNets (update fun s => s.setVirtualNet queue { s.virtualNet queue with lastUpdate := 0 })

namespace FlatCircuit

variable (c : FlatCircuit)

/-- The entry of a net in the vector of a queue is that of the sim vector, or the net is linked to itself. -/
def copyOrUnlink (queue : EventQueueType) (theNetId : Nat) (copied : Bool) : NetM Unit :=
  if copied then update fun s =>
    s.setVirtualNet queue ((s.virtualNet queue).copyNet theNetId ((s.virtualNet .simQueue).net theNetId))
  else setLinkAt queue theNetId theNetId 0 0

/-- The voltage of a queue at the cached end of a net. -/
def cachedVoltage (s : NetState) (queue vector : EventQueueType) (theNetId : Nat) : Int :=
  s.voltage queue ((s.virtualNet vector).net theNetId).finalNetId

/-- `ResetMinMaxPower`, first pass: the links that do not come from the shorts of resistors are removed. -/
def resetFirstLinks (theNetId : Nat) (queue : EventQueueType) : NetM Unit := do
  let s ← read id
  let v := s.virtualNet queue
  let simNet := (s.virtualNet .simQueue).net theNetId
  if v.next theNetId = simNet.nextNetId then
    update fun s => s.setVirtualNet queue (v.copyNet theNetId
      { v.net theNetId with
        finalNetId := simNet.finalNetId
        -- save resistances for calculated power
        resistance := if v.isTerminal theNetId then (v.net theNetId).finalResistance else (v.net theNetId).resistance })
  else setLinkAt queue theNetId theNetId 0 0

/-- `ResetMinMaxPower`, after the first sim pass: the links of the sim vector are taken over, unless a voltage goes beyond that of
the power at the end of the sim links. -/
def resetSecondLinks (theNetId : Nat) : NetM Unit := do
  let s ← read id
  let simFixed := cachedVoltage s .simQueue .simQueue theNetId != unknownVoltage
  let minVoltage := cachedVoltage s .minQueue .minQueue theNetId
  let simMinVoltage := cachedVoltage s .minQueue .simQueue theNetId
  let maxVoltage := cachedVoltage s .maxQueue .maxQueue theNetId
  let simMaxVoltage := cachedVoltage s .maxQueue .simQueue theNetId
  copyOrUnlink .minQueue theNetId
    (!simFixed || minVoltage == unknownVoltage || simMinVoltage != unknownVoltage && decide (minVoltage ≤ simMinVoltage))
  copyOrUnlink .maxQueue theNetId (!simFixed || maxVoltage == unknownVoltage || decide (maxVoltage ≥ simMaxVoltage))

/-- A power that is also the leak power of its net is copied before it is changed. -/
def saveLeakPower (theNetId p : Nat) (s : NetState) : NetState :=
  if s.leakVoltagePtr theNetId = some p then
    { s.setPower s.powerCount (s.power p) (s.isVoltage p) with
      powerCount := s.powerCount + 1
      leakVoltagePtr := Function.update s.leakVoltagePtr theNetId (some s.powerCount) }
  else s

/-- A calculated min or max voltage is erased. -/
def eraseCalculation (theNetId p : Nat) (queue : EventQueueType) (s : NetState) : NetState :=
  if (s.power p).calculated queue.calculatedBit then
    let s := saveLeakPower theNetId p s
    let power := s.power p
    match queue with
    | .minQueue =>
      s.setPower p
        { power with type := { power.type with minCalculatedBit := false }, defaultMinNet := unknownNet, minVoltage :=
          unknownVoltage }
        (CPower.isVoltage_of isVoltage_unknownVoltage (s.isVoltage p .simQueue) (s.isVoltage p .maxQueue))
    | .maxQueue =>
      s.setPower p
        { power with type := { power.type with maxCalculatedBit := false }, defaultMaxNet := unknownNet, maxVoltage :=
          unknownVoltage }
        (CPower.isVoltage_of (s.isVoltage p .minQueue) (s.isVoltage p .simQueue) isVoltage_unknownVoltage)
    | .simQueue => s
  else s

/-- `ResetMinMaxPower`: min and max calculations are removed if the net has no sim voltage. -/
def eraseCalculations (theNetId : Nat) : NetM Unit := do
  let s ← read id
  let simFinalNetId := ((s.virtualNet .simQueue).net theNetId).finalNetId
  match s.netVoltagePtr theNetId with
  | none => pure ()
  | some p =>
    if simFinalNetId = unknownNet then pure ()
    else do
      let simPower ← powerAt (s.netVoltagePtr simFinalNetId)
      when (simPower.simVoltage == unknownVoltage) (update fun s =>
        let s := eraseCalculation theNetId p .maxQueue (eraseCalculation theNetId p .minQueue s)
        if (s.power p).type == {} && (s.power p).powerSignal.isEmpty then
          { s with netVoltagePtr := Function.update s.netVoltagePtr theNetId none }
        else s)

/-- The leak voltage of a net that limits its default min or max voltage. -/
def leakLimit (s : NetState) (queue : EventQueueType) (theNetId : Nat) (isBeyond : Int → Bool) : Option CPower :=
  match s.leakVoltagePtr theNetId with
  | some leak =>
    if (s.power leak).queueVoltage queue ≠ unknownVoltage ∧ isBeyond ((s.power leak).queueVoltage queue) then some (s.power leak)
      else none
  | none => none

/-- `ResetMinMaxPower`: an unknown min voltage is the sim voltage, or the leak voltage above it. -/
def defaultMinVoltage (theNetId p : Nat) (s : NetState) : NetState :=
  let power := s.power p
  if power.minVoltage = unknownVoltage then
    let leak := leakLimit s .minQueue theNetId fun v => decide (v > power.simVoltage)
    s.setPower p
      { power with
        minVoltage := int16 ((leak.map CPower.minVoltage).getD power.simVoltage)
        defaultMinNet := (leak.map CPower.defaultMinNet).getD unknownNet
        active := { power.active with minActive := true }
        type := { power.type with minCalculatedBit := true } }
      (CPower.isVoltage_of (isVoltage_int16 _) (s.isVoltage p .simQueue) (s.isVoltage p .maxQueue))
  else s

/-- `ResetMinMaxPower`: an unknown max voltage is the sim voltage, or the leak voltage below it. -/
def defaultMaxVoltage (theNetId p : Nat) (s : NetState) : NetState :=
  let power := s.power p
  if power.maxVoltage = unknownVoltage then
    let leak := leakLimit s .maxQueue theNetId fun v => decide (v < power.simVoltage)
    s.setPower p
      { power with
        maxVoltage := int16 ((leak.map CPower.maxVoltage).getD power.simVoltage)
        defaultMaxNet := unknownNet
        active := { power.active with maxActive := true }
        type := { power.type with maxCalculatedBit := true } }
      (CPower.isVoltage_of (s.isVoltage p .minQueue) (s.isVoltage p .simQueue) (isVoltage_int16 _))
  else s

/-- `ResetMinMaxPower`: the power of a net gets default voltages, or is removed if it was only calculated. -/
def resetPower (theNetId : Nat) : NetM Unit := do
  let s ← read id
  match s.netVoltagePtr theNetId with
  | none => pure ()
  | some p =>
    if c.isFixedSimNet && (s.power p).simVoltage != unknownVoltage then
      update fun s => defaultMaxVoltage theNetId p (defaultMinVoltage theNetId p s)
    else do
      let mySimVoltage ← c.simVoltage theNetId
      when (mySimVoltage == unknownVoltage && (s.power p).powerSignal.isEmpty && (s.power p).isCalculated)
        (update fun s => { s with netVoltagePtr := Function.update s.netVoltagePtr theNetId none })

/-- One round of the loop over the nets of `ResetMinMaxPower`. -/
def resetNet (theNetId : Nat) : NetM Unit := do
  if c.isFixedSimNet then do
    resetSecondLinks theNetId
    eraseCalculations theNetId
  else do
    resetFirstLinks theNetId .minQueue
    resetFirstLinks theNetId .maxQueue
  c.resetPower theNetId

/-- `ResetMinMaxPower`, up to the call of `SetInitialMinMaxPower`. -/
def resetMinMax : DbM Unit := do
  resetEventQueue c.deviceCount .minQueue
  resetEventQueue c.deviceCount .maxQueue
  onNets (update fun s => s.setVirtualNet .minQueue (s.virtualNet .minQueue).initializeUpdateArray)
  onNets (update fun s => s.setVirtualNet .maxQueue (s.virtualNet .maxQueue).initializeUpdateArray)
  modifyDevices fun s => { s with
    deviceStatus := fun d => if d < c.deviceCount then (s.deviceStatus d).resetInactive else s.deviceStatus d }
  onNets ((List.range c.netCount).forM c.resetNet)

/-- `CCvcDb::ResetMinMaxPower`. -/
def resetMinMaxPower (rounds : Nat) : DbM Unit := do
  c.resetMinMax
  c.setInitialMinMaxPower rounds
  onNets (update fun s => s.setVirtualNet .minQueue (s.virtualNet .minQueue).clearUpdateArray)
  onNets (update fun s => s.setVirtualNet .maxQueue (s.virtualNet .maxQueue).clearUpdateArray)

/-! ## The simulation -/

/-- One round of the first loop of `SetSimPower`; `theNewNetSet` has the nets of the pass if it is not empty. -/
def enqueueSimNet (thePropagationType : Propagation) (theNewNetSet : List Nat) (theNetId : Nat) : DbM Unit := do
  let nets ← read PropagationState.nets
  when (theNetId == c.getEquivalentNet nets theNetId) do
    let mySimMasterNet ← onNets (virtualNetAt .simQueue theNetId)
    match nets.netVoltagePtr mySimMasterNet.finalNetId with
    | none => pure ()
    | some p =>
      let power := nets.power p
      when ((theNewNetSet.isEmpty || theNewNetSet.contains theNetId) &&
          (power.simVoltage != unknownVoltage || nets.isSCRCPower (some p)) &&
          (thePropagationType != .powerNetsOnly || power.isPriority))
        (c.enqueueAttachedDevices .simQueue theNetId power.simVoltage)

/-- `CCvcDb::SetSimPower`. -/
def setSimPower (rounds : Nat) (thePropagationType : Propagation) (theNewNetSet : List Nat) : DbM Unit := do
  resetEventQueue c.deviceCount .simQueue
  onNets (update fun s => s.setVirtualNet .simQueue (s.virtualNet .simQueue).initializeUpdateArray)
  (List.range c.netCount).forM (c.enqueueSimNet thePropagationType theNewNetSet)
  startQueues [.simQueue]
  repeatWhile .endless (fun s => (s.devices.queue .simQueue).size != 0) (c.propagateSimVoltages thePropagationType) rounds
  onNets ((List.range c.netCount).forM fun net => do
    let _ ← virtualNetAt .simQueue net
    pure ())
  onNets (update fun s => s.setVirtualNet .simQueue (s.virtualNet .simQueue).clearUpdateArray)

end FlatCircuit
end Cvc
